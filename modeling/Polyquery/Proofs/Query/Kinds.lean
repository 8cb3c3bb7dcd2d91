import Polyquery.Proofs.Query.Parsing

/-!
# Texts with the same kinds of tokens

A word can be exchanged for any other word without a change in the kinds of the tokens, as long as neither
of the two is blank or holds an operator.  The parser sees no difference: it accepts both texts with trees
of one form, refuses both at the same token, or finds no query in either.
-/

namespace Polyquery

open Text Unicode

inductive Query.SameReading :
    Except ParseError (Option Query) → Except ParseError (Option Query) → Prop where
  | blank : SameReading (.ok none) (.ok none)
  | query {left right : Query} (h : left.shape = right.shape) :
      SameReading (.ok (some left)) (.ok (some right))
  | refused {left right : ParseError} (h : left.unexpected = right.unexpected) :
      SameReading (.error left) (.error right)

namespace Token

def kinds (text : Text) : List Token :=
  (body text).map kind

theorem map_kind_list (text : Text) :
    (list text).map (fun placed => placed.token.kind) = kinds text ++ [.endOfInput] := by
  have hlist := congrArg (List.map kind) (map_token_list text)
  rw [List.map_map, List.map_append] at hlist
  exact hlist

theorem kinds_word {word : Text} (hword : Avoids isOperatorChar word)
    (hblank : isBlankText word = false) : kinds word = [.filter []] := by
  rw [kinds, body_word hword, ofWord_of_not_blank hblank]
  rfl

theorem kinds_append_operator {c : Char} {operator : Operator}
    (hc : Operator.ofChar? c = some operator) (left right : Text) :
    kinds (left ++ c :: right) = kinds left ++ ofOperator operator :: kinds right := by
  rw [kinds, body_append_operator hc, List.map_append, List.map_cons]
  cases operator <;> rfl

theorem kinds_eq_nil_iff {text : Text} : kinds text = [] ↔ isBlankText text = true := by
  rw [kinds, List.map_eq_nil_iff, body_eq_nil_iff]

theorem filter_kinds (text : Text) :
    (kinds text).filter (fun token => !token.isFilter) =
      (text.filterMap Operator.ofChar?).map ofOperator := by
  have hplain : ∀ word, Avoids isOperatorChar word →
      (kinds word).filter (fun token => !token.isFilter) = [] ∧
        word.filterMap Operator.ofChar? = [] := by
    intro word hword
    constructor
    · cases hblank : isBlankText word with
      | true =>
          rw [kinds_eq_nil_iff.mpr hblank]
          rfl
      | false =>
          rw [kinds_word hword hblank]
          rfl
    · exact List.filterMap_eq_nil_iff.mpr fun c hc => ofChar?_of_not_isOperatorChar (hword c hc)
  induction text using induction_on_breaks isOperatorChar with
  | whole word hword => rw [(hplain word hword).left, (hplain word hword).right, List.map_nil]
  | step word c rest hword hc ih =>
      rcases exists_operator_of_isOperatorChar hc with ⟨operator, hop⟩
      rw [kinds_append_operator hop, List.filter_append, List.filter_cons, isFilter_ofOperator,
        (hplain word hword).left, ih, List.filterMap_append, (hplain word hword).right,
        List.filterMap_cons_some hop]
      rfl

theorem kinds_append_word {left right : Text} (lead : Text) (hleft : Avoids isOperatorChar left)
    (hleftBlank : isBlankText left = false) (hright : Avoids isOperatorChar right)
    (hrightBlank : isBlankText right = false) : kinds (lead ++ left) = kinds (lead ++ right) := by
  induction lead using induction_on_breaks isOperatorChar with
  | whole word hword =>
      have hkinds : ∀ other, Avoids isOperatorChar other → isBlankText other = false →
          kinds (word ++ other) = [.filter []] := by
        intro other hother hblank
        apply kinds_word (avoids_append.mpr ⟨hword, hother⟩)
        rw [isBlankText, List.all_append, ← isBlankText, ← isBlankText, hblank, Bool.and_false]
      rw [hkinds left hleft hleftBlank, hkinds right hright hrightBlank]
  | step word c rest hword hc ih =>
      rcases exists_operator_of_isOperatorChar hc with ⟨operator, hop⟩
      rw [List.append_assoc, List.append_assoc, List.cons_append, List.cons_append,
        kinds_append_operator hop, kinds_append_operator hop, ih]

/-- Separators keep segments apart, so the kinds can be compared segment by segment. -/
theorem kinds_joined_map {f : Text → Text} {pieces : List Piece} (h : Piece.Alternating pieces)
    (hf : ∀ s, .segment s ∈ pieces → kinds (f s) = kinds s) :
    kinds (Piece.joined (pieces.map (Piece.map f))) = kinds (Piece.joined pieces) := by
  induction h with
  | @last s hs =>
      have hs := hf s List.mem_cons_self
      simpa [Piece.map] using hs
  | @cons s c rest hs hc hrest ih =>
      rcases exists_operator_of_isOperatorChar (isOperatorChar_iff.mpr (Or.inr hc)) with
        ⟨operator, hop⟩
      have hfirst := hf s List.mem_cons_self
      have hlater : kinds (Piece.joined (rest.map (Piece.map f))) = kinds (Piece.joined rest) := by
        apply ih
        intro other hother
        exact hf other (List.mem_cons_of_mem _ (List.mem_cons_of_mem _ hother))
      rw [List.map_cons, List.map_cons, Piece.map, Piece.map, Piece.joined_segment,
        Piece.joined_separator, Piece.joined_segment, Piece.joined_separator,
        kinds_append_operator hop, kinds_append_operator hop, hfirst, hlater]

end Token

/-!
# The parser
-/

theorem Token.kind_eq_self {token : Token} (h : token.isFilter = false) : token.kind = token := by
  cases token <;> first | rfl | cases h

namespace ParseState

theorem isFilter_of_read_body_error {text : Text} {refused : Token}
    (h : start.read (Token.body text ++ [.endOfInput]) = .error refused) :
    refused.isFilter = false := by
  apply isFilter_of_read_error h (Token.isChain_body_append text rfl)
  intro part hpart
  cases hpart

theorem answerShape_read_of_kinds {left right : Text} (h : Token.kinds left = Token.kinds right) :
    answerShape (start.read (Token.body left ++ [.endOfInput])) =
      answerShape (start.read (Token.body right ++ [.endOfInput])) := by
  rw [← read_shape, ← read_shape, List.map_append, List.map_append, ← Token.kinds,
    ← Token.kinds, h]

end ParseState

namespace Query

theorem sameReading_of_kinds {left right : Text} (h : Token.kinds left = Token.kinds right) :
    SameReading (parse left) (parse right) := by
  have hblanks : isBlankText left = isBlankText right := by
    rw [Bool.eq_iff_iff, ← Token.kinds_eq_nil_iff, ← Token.kinds_eq_nil_iff, h]
  cases hblank : isBlankText left with
  | true =>
      rw [parse_of_blank hblank, parse_of_blank (hblanks.symm.trans hblank)]
      exact .blank
  | false =>
      have hother := hblanks.symm.trans hblank
      have hanswers := ParseState.answerShape_read_of_kinds h
      cases hleft : ParseState.start.read (Token.body left ++ [.endOfInput]) with
      | ok query =>
          cases hright : ParseState.start.read (Token.body right ++ [.endOfInput]) with
          | ok other =>
              rw [parse_of_read hblank hleft, parse_of_read hother hright]
              rw [hleft, hright] at hanswers
              exact .query (Except.ok.inj hanswers)
          | error refused =>
              rw [hleft, hright] at hanswers
              cases hanswers
      | error refused =>
          cases hright : ParseState.start.read (Token.body right ++ [.endOfInput]) with
          | ok other =>
              rw [hleft, hright] at hanswers
              cases hanswers
          | error other =>
              rcases parse_of_read_error hblank hleft with ⟨first, hfirst, htoken⟩
              rcases parse_of_read_error hother hright with ⟨second, hsecond, hotherToken⟩
              rw [hleft, hright] at hanswers
              have hkinds : refused.kind = other.kind := Except.error.inj hanswers
              rw [Token.kind_eq_self (ParseState.isFilter_of_read_body_error hleft),
                Token.kind_eq_self (ParseState.isFilter_of_read_body_error hright)] at hkinds
              rw [hfirst, hsecond]
              exact .refused (htoken.trans (hkinds.trans hotherToken.symm))

end Query
end Polyquery
