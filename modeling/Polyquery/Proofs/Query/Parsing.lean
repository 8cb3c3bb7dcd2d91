import Mathlib.Data.List.Forall2
import Polyquery.Proofs.Query.Alternatives
import Polyquery.Proofs.Query.Leaves

/-!
# Parsing and cutting

A query can be read by cutting.  It is a query if every segment spells a leaf, and its tree is the tree of
the leaves of its alternatives.  The parser, which never looks ahead further than one token, reads the same
queries and builds the same trees.
-/

namespace Polyquery

open Text Unicode

theorem ofChar?_of_isSeparator {c : Char} (h : isSeparator c = true) :
    Operator.ofChar? c = some .or ∨ Operator.ofChar? c = some .and := by
  rcases isSeparator_iff.mp h with rfl | rfl | rfl | rfl | rfl
  · exact Or.inr rfl
  · exact Or.inr rfl
  · exact Or.inl rfl
  · exact Or.inl rfl
  · exact Or.inl rfl

theorem body_joined_cons {s : Text} {c : Char} {operator : Operator}
    (hc : Operator.ofChar? c = some operator) (rest : List Piece) :
    Token.body (Piece.joined (.segment s :: .separator c :: rest)) =
      Token.body s ++ Token.ofOperator operator :: Token.body (Piece.joined rest) := by
  rw [Piece.joined_segment, Piece.joined_separator, Token.body_append_operator hc]

theorem body_joined_last (s : Text) :
    Token.body (Piece.joined [.segment s]) = Token.body s := by
  rw [Piece.joined_segment, Piece.joined_nil, List.append_nil]

/-!
# Pieces in the parser
-/

namespace ParseState

theorem read_and (part : ParsedPart) (rest : List Token) :
    (complete part).read (.and :: rest) = (operand part).read rest :=
  read_of_step (by simp) rfl rest

theorem read_or (part : ParsedPart) (rest : List Token) :
    (complete part).read (.or :: rest) = (operand part.close).read rest :=
  read_of_step (by simp) rfl rest

/-- When every segment spells a leaf, the parser collects the leaves of the alternatives in order. -/
theorem read_pieces {pieces : List Piece} (h : Piece.Alternating pieces) {first : List Query}
    {others : List (List Query)}
    (hleaves : List.Forall₂ (List.Forall₂ Query.Spells) (Piece.alternatives pieces)
      (first :: others)) (part : ParsedPart) (rest : List Token) :
    (operand part).read (Token.body (Piece.joined pieces) ++ rest) =
      (complete ((part.pushAll first).closeAll others)).read rest := by
  induction h generalizing first others part with
  | last hs =>
      rw [Piece.alternatives_segment, List.forall₂_cons, List.forall₂_nil_left_iff,
        List.forall₂_cons_left_iff] at hleaves
      rcases hleaves with ⟨⟨leaf, more, hleaf, hmore, rfl⟩, rfl⟩
      rw [List.forall₂_nil_left_iff] at hmore
      subst hmore
      rw [body_joined_last]
      exact read_leaf hs hleaf part rest
  | @cons s c tail hs hc htail ih =>
      rcases ofChar?_of_isSeparator hc with hop | hop
      · rw [Piece.alternatives_or hop, List.forall₂_cons, List.forall₂_cons_left_iff] at hleaves
        rcases hleaves with ⟨⟨leaf, more, hleaf, hmore, rfl⟩, hothers⟩
        rw [List.forall₂_nil_left_iff] at hmore
        subst hmore
        cases others with
        | nil =>
            rw [List.forall₂_nil_right_iff] at hothers
            exact absurd hothers htail.alternatives_nonempty.left
        | cons next others =>
            rw [body_joined_cons hop, List.append_assoc, read_leaf hs hleaf]
            exact (read_or _ _).trans (ih hothers _)
      · have hand : Operator.ofChar? c ≠ some .or := by
          rw [hop]
          simp
        rw [Piece.alternatives_and hand] at hleaves
        cases halts : Piece.alternatives tail with
        | nil => exact absurd halts htail.alternatives_nonempty.left
        | cons run runs =>
            rw [halts, List.modifyHead_cons, List.forall₂_cons, List.forall₂_cons_left_iff]
              at hleaves
            rcases hleaves with ⟨⟨leaf, more, hleaf, hmore, rfl⟩, hothers⟩
            rw [halts] at ih
            rw [body_joined_cons hop, List.append_assoc, read_leaf hs hleaf]
            exact (read_and _ _).trans (ih (.cons hmore hothers) _)

/-- A segment that spells no leaf is refused, whatever stands before and behind it. -/
theorem refuses_pieces {pieces : List Piece} (h : Piece.Alternating pieces) {segment : Text}
    (hmem : .segment segment ∈ pieces) (hspells : ∀ leaf, ¬Query.Spells segment leaf)
    (part : ParsedPart) :
    Refuses ((operand part).read (Token.body (Piece.joined pieces) ++ [.endOfInput])) := by
  induction h generalizing part with
  | last hs =>
      cases List.mem_singleton.mp hmem
      rw [body_joined_last]
      exact refuses_segment hs hspells part (by simp) rfl []
  | @cons s c tail hs hc htail ih =>
      rcases exists_operator_of_isOperatorChar (isOperatorChar_iff.mpr (Or.inr hc)) with
        ⟨operator, hop⟩
      rw [body_joined_cons hop, List.append_assoc, List.cons_append]
      by_cases hfirst : ∃ leaf, Query.Spells s leaf
      · rcases hfirst with ⟨leaf, hleaf⟩
        have hlater : Piece.segment segment ∈ tail := by
          rcases List.mem_cons.mp hmem with heq | hmem
          · cases heq
            exact absurd hleaf (hspells leaf)
          · rcases List.mem_cons.mp hmem with heq | hmem
            · cases heq
            · exact hmem
        rw [read_leaf hs hleaf]
        rcases ofChar?_of_isSeparator hc with hkind | hkind
        · cases hop.symm.trans hkind
          rw [show Token.ofOperator .or = Token.or from rfl, read_or]
          exact ih hlater _
        · cases hop.symm.trans hkind
          rw [show Token.ofOperator .and = Token.and from rfl, read_and]
          exact ih hlater _
      · have hnot : Token.ofOperator operator ≠ .not := by
          rcases ofChar?_of_isSeparator hc with hkind | hkind
          · cases hop.symm.trans hkind
            simp [Token.ofOperator]
          · cases hop.symm.trans hkind
            simp [Token.ofOperator]
        refine refuses_segment hs ?_ part hnot (Token.isFilter_ofOperator operator) _
        intro leaf hleaf
        exact hfirst ⟨leaf, hleaf⟩

end ParseState

/-!
# Texts in the parser
-/

namespace Token

theorem body_eq_nil_iff {text : Text} : body text = [] ↔ isBlankText text = true := by
  by_cases hplain : Avoids isOperatorChar text
  · rw [body_word hplain, ofWord]
    split
    · rename_i hblank
      simp [hblank]
    · rename_i hblank
      simp [hblank]
  · rcases eq_append_of_not_avoids hplain with ⟨word, c, rest, rfl, _, hc⟩
    rcases exists_operator_of_isOperatorChar hc with ⟨operator, hop⟩
    have hmem : c ∈ word ++ c :: rest := List.mem_append_right word List.mem_cons_self
    rw [body_append_operator hop, not_isBlankText_of_mem hmem (isBlank_of_isOperatorChar hc)]
    simp

end Token

namespace Query

theorem parse_of_blank {text : Text} (h : isBlankText text = true) : parse text = .ok none := by
  have hbody : Token.bodyFrom 0 text = [] := by
    have hnil := Token.body_eq_nil_iff.mpr h
    rw [Token.body, List.map_eq_nil_iff] at hnil
    exact hnil
  rw [parse, Token.list, Token.listFrom_eq_bodyFrom, hbody]
  rfl

theorem mapError_parse {text : Text} (h : isBlankText text = false) :
    (parse text).mapError ParseError.unexpected =
      (ParseState.start.read (Token.body text ++ [.endOfInput])).map some := by
  cases hlist : Token.bodyFrom 0 text with
  | nil =>
      have hnil : Token.body text = [] := by rw [Token.body, hlist, List.map_nil]
      rw [Token.body_eq_nil_iff.mp hnil] at h
      exact absurd h.symm Bool.false_ne_true
  | cons first rest =>
      have hfirst : first.token ≠ .endOfInput := by
        have hmem : first.token ∈ Token.body text := by
          rw [Token.body, hlist]
          exact List.mem_cons_self
        exact Token.ne_endOfInput_of_mem_body hmem
      rw [← Token.map_token_list, ← ParseState.mapError_run _ 0, parse, Token.list,
        Token.listFrom_eq_bodyFrom, hlist, List.cons_append, ofTokens, if_neg hfirst]
      cases ParseState.start.run 0 _ with
      | error error => rfl
      | ok query => rfl

theorem parse_of_read {text : Text} {query : Query} (h : isBlankText text = false)
    (hread : ParseState.start.read (Token.body text ++ [.endOfInput]) = .ok query) :
    parse text = .ok (some query) := by
  have hparse := mapError_parse h
  rw [hread] at hparse
  cases hanswer : parse text with
  | error error =>
      rw [hanswer] at hparse
      cases hparse
  | ok answer =>
      rw [hanswer] at hparse
      cases hparse
      rfl

theorem parse_of_read_error {text : Text} {refused : Token} (h : isBlankText text = false)
    (hread : ParseState.start.read (Token.body text ++ [.endOfInput]) = .error refused) :
    ∃ error, parse text = .error error ∧ error.unexpected = refused := by
  have hparse := mapError_parse h
  rw [hread] at hparse
  cases hanswer : parse text with
  | error error =>
      rw [hanswer] at hparse
      cases hparse
      exact ⟨error, rfl, rfl⟩
  | ok answer =>
      rw [hanswer] at hparse
      cases hparse

theorem parse_of_refuses {text : Text} (h : isBlankText text = false)
    (hread : ParseState.Refuses (ParseState.start.read (Token.body text ++ [.endOfInput]))) :
    ∃ error, parse text = .error error := by
  rcases hread with ⟨token, hread⟩
  rcases parse_of_read_error h hread with ⟨error, herror, _⟩
  exact ⟨error, herror⟩

/-!
# Agreement
-/

theorem not_spells_blank {segment : Text} (h : isBlankText segment = true) (leaf : Query) :
    ¬Spells segment leaf := by
  have hnil : trimmed segment = [] := by
    rw [trimmed, trimLeft_eq_nil_iff.mpr h]
    rfl
  intro hspells
  cases hspells with
  | filter hne _ htrim => exact hne (htrim.symm.trans hnil)
  | not _ _ _ _ htrim => exact absurd (htrim.symm.trans hnil) (List.cons_ne_nil _ _)

theorem exists_forall₂ {α β : Type} {R : α → β → Prop} {entries : List α}
    (h : ∀ a ∈ entries, ∃ b, R a b) : ∃ images, List.Forall₂ R entries images := by
  induction entries with
  | nil => exact ⟨[], .nil⟩
  | cons a rest ih =>
      rcases h a List.mem_cons_self with ⟨b, hb⟩
      rcases ih fun other hother => h other (List.mem_cons_of_mem _ hother) with ⟨images, himages⟩
      exact ⟨b :: images, .cons hb himages⟩

theorem forall₂_images_nonempty {α β : Type} {R : α → β → Prop} {runs : List (List α)}
    {images : List (List β)} (h : List.Forall₂ (List.Forall₂ R) runs images)
    (hruns : ∀ run ∈ runs, run ≠ []) : ∀ image ∈ images, image ≠ [] := by
  induction h with
  | nil =>
      intro image himage
      cases himage
  | @cons run _ _ _ hfirst _ ih =>
      intro image himage
      rcases List.mem_cons.mp himage with rfl | himage
      · rintro rfl
        exact hruns run List.mem_cons_self (List.forall₂_nil_right_iff.mp hfirst)
      · exact ih (fun other hother => hruns other (List.mem_cons_of_mem _ hother)) image himage

theorem ofText_of_blank {text : Text} (h : isBlankText text = true) :
    Piece.ofText text = [.segment text] :=
  Piece.ofText_of_avoids
    (avoids_isOperatorChar_iff.mp (avoids_isOperatorChar_of_isBlankText h)).right

theorem parse_of_leaves {text : Text} {leaves : List (List Query)}
    (h : List.Forall₂ (List.Forall₂ Spells) (Piece.alternatives (Piece.ofText text)) leaves) :
    ∃ query, ofAlternatives leaves = some query ∧ parse text = .ok (some query) := by
  have hpieces := Piece.alternating_ofText text
  rcases hpieces.alternatives_nonempty with ⟨hne, hruns⟩
  have hblank : isBlankText text = false := by
    cases hall : isBlankText text with
    | false => rfl
    | true =>
        rw [ofText_of_blank hall, Piece.alternatives_segment, List.forall₂_cons_left_iff] at h
        rcases h with ⟨_, _, hrun, _, _⟩
        rw [List.forall₂_cons_left_iff] at hrun
        rcases hrun with ⟨leaf, _, hleaf, _, _⟩
        exact absurd hleaf (not_spells_blank hall leaf)
  have hleaves : leaves ≠ [] := by
    rintro rfl
    exact hne (List.forall₂_nil_right_iff.mp h)
  rcases exists_ofAlternatives hleaves (forall₂_images_nonempty h hruns) with ⟨query, hquery⟩
  refine ⟨query, hquery, parse_of_read hblank ?_⟩
  cases leaves with
  | nil => exact absurd rfl hleaves
  | cons first others =>
      have hread := ParseState.read_pieces hpieces h .empty [.endOfInput]
      rw [Piece.joined_ofText] at hread
      rw [ParseState.start, hread, ParseState.read, if_pos rfl, ParseState.conclude,
        ParseState.query?, ParsedPart.query?_ofAlternatives hquery]

theorem exists_leaves {text : Text}
    (h : ∀ segment ∈ Piece.segments text, ∃ leaf, Spells segment leaf) :
    ∃ leaves,
      List.Forall₂ (List.Forall₂ Spells) (Piece.alternatives (Piece.ofText text)) leaves := by
  apply exists_forall₂
  intro run hrun
  apply exists_forall₂
  intro segment hsegment
  exact h segment (Piece.mem_segments.mpr (Piece.mem_of_mem_alternatives hrun hsegment))

theorem parse_of_unspelled {text segment : Text} (hblank : isBlankText text = false)
    (hsegment : segment ∈ Piece.segments text) (h : ∀ leaf, ¬Spells segment leaf) :
    ∃ error, parse text = .error error := by
  apply parse_of_refuses hblank
  have hrefuses := ParseState.refuses_pieces (Piece.alternating_ofText text)
    (Piece.mem_segments.mp hsegment) h .empty
  rw [Piece.joined_ofText] at hrefuses
  exact hrefuses

theorem isBlankText_of_parse {text : Text} (h : parse text = .ok none) :
    isBlankText text = true := by
  cases hblank : isBlankText text with
  | true => rfl
  | false =>
      have hparse := mapError_parse hblank
      rw [h] at hparse
      cases hread : ParseState.start.read (Token.body text ++ [.endOfInput]) with
      | error token =>
          rw [hread] at hparse
          cases hparse
      | ok query =>
          rw [hread] at hparse
          cases hparse

theorem spells_of_parse {text : Text} {query : Query} (h : parse text = .ok (some query)) :
    ∀ segment ∈ Piece.segments text, ∃ leaf, Spells segment leaf := by
  intro segment hsegment
  by_contra hnone
  cases hblank : isBlankText text with
  | true =>
      rw [parse_of_blank hblank] at h
      cases h
  | false =>
      rcases parse_of_unspelled hblank hsegment (not_exists.mp hnone) with ⟨error, herror⟩
      rw [herror] at h
      cases h

/-- The parser and the cutting of a text into pieces agree on every text. -/
theorem parse_agrees_with_pieces (text : Text) :
    (parse text = .ok none ↔ isBlankText text = true) ∧
    ((∃ query, parse text = .ok (some query)) ↔
      ∀ segment ∈ Piece.segments text, ∃ leaf, Spells segment leaf) ∧
    (∀ query, parse text = .ok (some query) ↔
      ∃ leaves, List.Forall₂ (List.Forall₂ Spells) (Piece.alternatives (Piece.ofText text)) leaves ∧
        ofAlternatives leaves = some query) ∧
    ((∃ error, parse text = .error error) ↔
      isBlankText text = false ∧ ∃ segment ∈ Piece.segments text, ∀ leaf, ¬Spells segment leaf) := by
  refine ⟨⟨isBlankText_of_parse, parse_of_blank⟩, ⟨?_, ?_⟩, ?_, ?_, ?_⟩
  · rintro ⟨query, hquery⟩
    exact spells_of_parse hquery
  · intro h
    rcases exists_leaves h with ⟨leaves, hleaves⟩
    rcases parse_of_leaves hleaves with ⟨query, _, hquery⟩
    exact ⟨query, hquery⟩
  · intro query
    constructor
    · intro h
      rcases exists_leaves (spells_of_parse h) with ⟨leaves, hleaves⟩
      rcases parse_of_leaves hleaves with ⟨other, htree, hother⟩
      cases h.symm.trans hother
      exact ⟨leaves, hleaves, htree⟩
    · rintro ⟨leaves, hleaves, htree⟩
      rcases parse_of_leaves hleaves with ⟨other, hother, hparse⟩
      cases htree.symm.trans hother
      exact hparse
  · rintro ⟨error, herror⟩
    constructor
    · cases hblank : isBlankText text with
      | false => rfl
      | true =>
          rw [parse_of_blank hblank] at herror
          cases herror
    · by_contra hnone
      have hall : ∀ segment ∈ Piece.segments text, ∃ leaf, Spells segment leaf := by
        intro segment hsegment
        by_contra hspells
        exact hnone ⟨segment, hsegment, not_exists.mp hspells⟩
      rcases exists_leaves hall with ⟨leaves, hleaves⟩
      rcases parse_of_leaves hleaves with ⟨query, _, hquery⟩
      rw [herror] at hquery
      cases hquery
  · rintro ⟨hblank, segment, hsegment, hspells⟩
    exact parse_of_unspelled hblank hsegment hspells

end Query
end Polyquery
