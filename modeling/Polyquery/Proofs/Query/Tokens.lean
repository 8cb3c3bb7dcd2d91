import Mathlib.Data.List.Chain
import Polyquery.Proofs.Text.Trimming
import Polyquery.Query.Token

/-!
# Tokens of composed texts

Operators cut a text into words, which may be blank.  The token stream of a text is the stream of its
words with the operators between them: a blank word gives no token and any other word gives one term.  So
the tokens of a text can be read off wherever an operator stands, and they do not depend on the place at
which the text begins.
-/

namespace Polyquery

open Text Unicode

theorem isBlank_of_isOperatorChar {c : Char} (h : isOperatorChar c = true) : isBlank c = false := by
  rw [isOperatorChar_iff, isSeparator_iff] at h
  rcases h with rfl | rfl | rfl | rfl | rfl | rfl <;> decide

theorem isOperatorChar_of_ofChar? {c : Char} {operator : Operator}
    (h : Operator.ofChar? c = some operator) : isOperatorChar c = true := by
  rw [isOperatorChar, h]
  rfl

theorem ofChar?_of_not_isOperatorChar {c : Char} (h : isOperatorChar c = false) :
    Operator.ofChar? c = none := by
  simpa [isOperatorChar] using h

theorem exists_operator_of_isOperatorChar {c : Char} (h : isOperatorChar c = true) :
    ∃ operator, Operator.ofChar? c = some operator :=
  Option.isSome_iff_exists.mp h

theorem avoids_isSeparator_of_isOperatorChar {text : Text} (h : Avoids isOperatorChar text) :
    Avoids isSeparator text := by
  intro c hc
  cases hsep : isSeparator c with
  | false => rfl
  | true =>
      have hop : isOperatorChar c = true := isOperatorChar_iff.mpr (Or.inr hsep)
      rw [h c hc] at hop
      exact absurd hop Bool.false_ne_true

/-!
# One token
-/

namespace Lexeme

theorem read_blank_append {blank : Text} (hblank : ∀ c ∈ blank, isBlank c = true)
    (position : Nat) (rest : Text) :
    read position (blank ++ rest) = read (position + byteSize blank) rest := by
  rw [read, read, List.takeWhile_append_of_pos hblank, List.dropWhile_append_of_pos hblank,
    byteSize_append, Nat.add_assoc]

theorem read_operator {c : Char} {operator : Operator}
    (hc : Operator.ofChar? c = some operator) (position : Nat) (rest : Text) :
    read position (c :: rest) =
      { token := .ofOperator operator, start := position, stop := position + c.utf8Size,
        rest := rest } := by
  have hblank := isBlank_of_isOperatorChar (isOperatorChar_of_ofChar? hc)
  simp [read, hblank, hc]

theorem read_term {c : Char} {tail rest : Text} (hblank : isBlank c = false)
    (hterm : Avoids isOperatorChar (c :: tail)) (hrest : StartsOutside isTermChar rest)
    (position : Nat) :
    read position (c :: tail ++ rest) =
      { token := .filter (lower (trimRight (c :: tail)))
        start := position
        stop := position + byteSize (c :: tail)
        rest := rest } := by
  rcases avoids_cons.mp hterm with ⟨hc, htail⟩
  have hrun : ∀ d ∈ tail, isTermChar d = true := by
    intro d hd
    rw [isTermChar, htail d hd]
    rfl
  simp [read, hblank, ofChar?_of_not_isOperatorChar hc, takeWhile_append_run hrun hrest,
    dropWhile_append_run hrun hrest]

theorem startsOutside_isTermChar_cons {c : Char} {rest : Text} (hc : isOperatorChar c = true) :
    StartsOutside isTermChar (c :: rest) := by
  rw [startsOutside_cons, isTermChar, hc]
  rfl

end Lexeme

/-!
# The stream of a text
-/

namespace Token

open Lexeme

theorem listFrom_of_end {position : Nat} {text : Text}
    (h : (read position text).token = .endOfInput) :
    listFrom position text = [(read position text).placed] := by
  rw [listFrom]
  simp only [h, dite_true]

theorem listFrom_of_token {position : Nat} {text : Text}
    (h : (read position text).token ≠ .endOfInput) :
    listFrom position text =
      (read position text).placed ::
        listFrom (read position text).stop (read position text).rest := by
  rw [listFrom]
  simp only [h, dite_false]

theorem listFrom_nil (position : Nat) :
    listFrom position [] = [{ token := .endOfInput, position := position }] :=
  listFrom_of_end rfl

theorem ofOperator_ne_endOfInput (operator : Operator) : ofOperator operator ≠ .endOfInput := by
  cases operator <;> simp [ofOperator]

theorem listFrom_operator {c : Char} {operator : Operator}
    (hc : Operator.ofChar? c = some operator) (position : Nat) (rest : Text) :
    listFrom position (c :: rest) =
      { token := .ofOperator operator, position := position } ::
        listFrom (position + c.utf8Size) rest := by
  have hread := read_operator hc position rest
  have hne : (read position (c :: rest)).token ≠ .endOfInput := by
    rw [hread]
    exact ofOperator_ne_endOfInput operator
  rw [listFrom_of_token hne, hread]
  rfl

theorem listFrom_blank_append {blank : Text} (hblank : ∀ c ∈ blank, isBlank c = true)
    (position : Nat) (rest : Text) :
    listFrom position (blank ++ rest) = listFrom (position + byteSize blank) rest := by
  have hread := read_blank_append hblank position rest
  by_cases h : (read (position + byteSize blank) rest).token = .endOfInput
  · rw [listFrom_of_end h, listFrom_of_end (by rw [hread]; exact h), hread]
  · rw [listFrom_of_token h, listFrom_of_token (by rw [hread]; exact h), hread]

def ofWord (word : Text) : List Token :=
  if isBlankText word then [] else [.filter (lower (trimmed word))]

def placedWord (position : Nat) (word : Text) : List PlacedToken :=
  (ofWord word).map fun token =>
    { token := token, position := position + byteSize (word.takeWhile isBlank) }

theorem ofWord_of_blank {word : Text} (h : isBlankText word = true) : ofWord word = [] := by
  rw [ofWord, if_pos h]

theorem ofWord_of_not_blank {word : Text} (h : isBlankText word = false) :
    ofWord word = [.filter (lower (trimmed word))] := by
  rw [ofWord, h]
  rfl

theorem exists_term_of_word {word : Text} (hword : Avoids isOperatorChar word)
    (h : isBlankText word = false) :
    ∃ c tail, trimLeft word = c :: tail ∧ word.takeWhile isBlank ++ c :: tail = word ∧
      isBlank c = false ∧ Avoids isOperatorChar (c :: tail) := by
  rcases exists_trimLeft_eq_cons h with ⟨c, tail, htrim, hc⟩
  have hsplit : word.takeWhile isBlank ++ c :: tail = word := by
    rw [← htrim, trimLeft]
    exact List.takeWhile_append_dropWhile
  rw [← hsplit, avoids_append] at hword
  exact ⟨c, tail, htrim, hsplit, hc, hword.right⟩

theorem listFrom_word_append {word rest : Text} (hword : Avoids isOperatorChar word)
    (hrest : StartsOutside isTermChar rest) (position : Nat) :
    listFrom position (word ++ rest) =
      placedWord position word ++ listFrom (position + byteSize word) rest := by
  cases hblank : isBlankText word with
  | true =>
      rw [listFrom_blank_append (isBlankText_iff.mp hblank), placedWord, ofWord_of_blank hblank]
      rfl
  | false =>
      rcases exists_term_of_word hword hblank with ⟨c, tail, htrim, hsplit, hc, hterm⟩
      have hlead : ∀ d ∈ word.takeWhile isBlank, isBlank d = true := by
        intro d hd
        exact List.mem_takeWhile_imp hd
      have hread := read_term hc hterm hrest (position + byteSize (word.takeWhile isBlank))
      have hne : (read (position + byteSize (word.takeWhile isBlank)) (c :: tail ++ rest)).token
          ≠ .endOfInput := by
        rw [hread]
        simp
      have hsize : byteSize word = byteSize (word.takeWhile isBlank) + byteSize (c :: tail) := by
        rw [← byteSize_append, hsplit]
      calc
        listFrom position (word ++ rest)
            = listFrom position (word.takeWhile isBlank ++ (c :: tail ++ rest)) := by
              rw [← List.append_assoc, hsplit]
        _ = listFrom (position + byteSize (word.takeWhile isBlank)) (c :: tail ++ rest) :=
              listFrom_blank_append hlead position _
        _ = placedWord position word ++ listFrom (position + byteSize word) rest := by
              rw [listFrom_of_token hne, hread, placedWord, ofWord_of_not_blank hblank, trimmed,
                htrim, hsize, ← Nat.add_assoc]
              rfl

theorem listFrom_word {word : Text} (hword : Avoids isOperatorChar word) (position : Nat) :
    listFrom position word =
      placedWord position word ++
        [{ token := .endOfInput, position := position + byteSize word }] := by
  have hnil : StartsOutside isTermChar [] := Avoids.startsOutside avoids_nil
  have h := listFrom_word_append hword hnil position
  rw [List.append_nil, listFrom_nil] at h
  exact h

theorem listFrom_word_operator {word : Text} (hword : Avoids isOperatorChar word) {c : Char}
    {operator : Operator} (hc : Operator.ofChar? c = some operator) (position : Nat)
    (rest : Text) :
    listFrom position (word ++ c :: rest) =
      placedWord position word ++
        { token := .ofOperator operator, position := position + byteSize word } ::
          listFrom (position + byteSize word + c.utf8Size) rest := by
  have hstart : StartsOutside isTermChar (c :: rest) :=
    startsOutside_isTermChar_cons (isOperatorChar_of_ofChar? hc)
  rw [listFrom_word_append hword hstart, listFrom_operator hc]

/-!
# The stream without its end marker
-/

def bodyFrom (position : Nat) (text : Text) : List PlacedToken :=
  (listFrom position text).dropLast

theorem listFrom_eq_bodyFrom (position : Nat) (text : Text) :
    listFrom position text =
      bodyFrom position text ++
        [{ token := .endOfInput, position := position + byteSize text }] := by
  induction text using induction_on_breaks isOperatorChar generalizing position with
  | whole word hword => rw [bodyFrom, listFrom_word hword, List.dropLast_concat]
  | step word c rest hword hc ih =>
      rcases exists_operator_of_isOperatorChar hc with ⟨operator, hop⟩
      rw [bodyFrom, listFrom_word_operator hword hop, ih, ← List.cons_append,
        ← List.append_assoc, List.dropLast_concat, byteSize_append, byteSize_cons, Nat.add_assoc,
        Nat.add_assoc, Nat.add_assoc]

theorem bodyFrom_word {word : Text} (hword : Avoids isOperatorChar word) (position : Nat) :
    bodyFrom position word = placedWord position word := by
  rw [bodyFrom, listFrom_word hword, List.dropLast_concat]

theorem listFrom_append_operator {c : Char} {operator : Operator}
    (hc : Operator.ofChar? c = some operator) (position : Nat) (left right : Text) :
    listFrom position (left ++ c :: right) =
      bodyFrom position left ++
        { token := .ofOperator operator, position := position + byteSize left } ::
          listFrom (position + byteSize left + c.utf8Size) right := by
  induction left using induction_on_breaks isOperatorChar generalizing position with
  | whole word hword => rw [listFrom_word_operator hword hc, bodyFrom_word hword]
  | step word d rest hword hd ih =>
      rcases exists_operator_of_isOperatorChar hd with ⟨inner, hinner⟩
      have hbody : bodyFrom position (word ++ d :: rest) =
          placedWord position word ++
            { token := .ofOperator inner, position := position + byteSize word } ::
              bodyFrom (position + byteSize word + d.utf8Size) rest := by
        rw [bodyFrom, listFrom_word_operator hword hinner, listFrom_eq_bodyFrom,
          ← List.cons_append, ← List.append_assoc, List.dropLast_concat]
      rw [List.append_assoc, List.cons_append, listFrom_word_operator hword hinner, ih, hbody,
        byteSize_append, byteSize_cons]
      simp only [List.append_assoc, List.cons_append, Nat.add_assoc]

theorem bodyFrom_append_operator {c : Char} {operator : Operator}
    (hc : Operator.ofChar? c = some operator) (position : Nat) (left right : Text) :
    bodyFrom position (left ++ c :: right) =
      bodyFrom position left ++
        { token := .ofOperator operator, position := position + byteSize left } ::
          bodyFrom (position + byteSize left + c.utf8Size) right := by
  rw [bodyFrom, listFrom_append_operator hc, listFrom_eq_bodyFrom, ← List.cons_append,
    ← List.append_assoc, List.dropLast_concat]

/-!
# Tokens without their places
-/

def body (text : Text) : List Token :=
  (bodyFrom 0 text).map PlacedToken.token

theorem map_token_placedWord (position : Nat) (word : Text) :
    (placedWord position word).map PlacedToken.token = ofWord word := by
  rw [placedWord, List.map_map]
  exact List.map_id' (ofWord word)

theorem map_token_bodyFrom (position : Nat) (text : Text) :
    (bodyFrom position text).map PlacedToken.token = body text := by
  rw [body]
  suffices h : ∀ place other, (bodyFrom place text).map PlacedToken.token =
      (bodyFrom other text).map PlacedToken.token from h position 0
  induction text using induction_on_breaks isOperatorChar with
  | whole word hword =>
      intro place other
      rw [bodyFrom_word hword, bodyFrom_word hword, map_token_placedWord, map_token_placedWord]
  | step word c rest hword hc ih =>
      intro place other
      rcases exists_operator_of_isOperatorChar hc with ⟨operator, hop⟩
      rw [bodyFrom_append_operator hop, bodyFrom_append_operator hop, bodyFrom_word hword,
        bodyFrom_word hword, List.map_append, List.map_append, List.map_cons, List.map_cons,
        map_token_placedWord, map_token_placedWord,
        ih (place + byteSize word + c.utf8Size) (other + byteSize word + c.utf8Size)]

theorem body_word {word : Text} (hword : Avoids isOperatorChar word) : body word = ofWord word := by
  rw [body, bodyFrom_word hword, map_token_placedWord]

theorem body_append_operator {c : Char} {operator : Operator}
    (hc : Operator.ofChar? c = some operator) (left right : Text) :
    body (left ++ c :: right) = body left ++ ofOperator operator :: body right := by
  rw [body, bodyFrom_append_operator hc, List.map_append, List.map_cons, map_token_bodyFrom,
    map_token_bodyFrom]

theorem ne_endOfInput_of_mem_body {token : Token} {text : Text} (h : token ∈ body text) :
    token ≠ .endOfInput := by
  induction text using induction_on_breaks isOperatorChar with
  | whole word hword =>
      rw [body_word hword, ofWord] at h
      split at h
      · cases h
      · cases List.mem_singleton.mp h
        simp
  | step word c rest hword hc ih =>
      rcases exists_operator_of_isOperatorChar hc with ⟨operator, hop⟩
      rw [body_append_operator hop, body_word hword, List.mem_append, List.mem_cons, ofWord] at h
      rcases h with h | rfl | h
      · split at h
        · cases h
        · cases List.mem_singleton.mp h
          simp
      · exact ofOperator_ne_endOfInput operator
      · exact ih h

/-!
# Neighbours

A term goes on up to the next operator, so an operator stands between two terms.
-/

def isFilter : Token → Bool
  | .filter _ => true
  | _ => false

def Apart (left right : Token) : Prop :=
  left.isFilter = false ∨ right.isFilter = false

theorem isFilter_ofOperator (operator : Operator) : (ofOperator operator).isFilter = false := by
  cases operator <;> rfl

theorem isChain_operator_cons {operator : Operator} {rest : List Token}
    (h : rest.IsChain Apart) : (ofOperator operator :: rest).IsChain Apart := by
  rw [List.isChain_cons]
  constructor
  · intro token _
    exact Or.inl (isFilter_ofOperator operator)
  · exact h

theorem isChain_ofWord_append {word : Text} {rest : List Token} (h : rest.IsChain Apart)
    (hhead : ∀ token ∈ rest.head?, token.isFilter = false) :
    (ofWord word ++ rest).IsChain Apart := by
  cases hblank : isBlankText word with
  | true =>
      rw [ofWord_of_blank hblank]
      exact h
  | false =>
      rw [ofWord_of_not_blank hblank, List.singleton_append, List.isChain_cons]
      constructor
      · intro token htoken
        exact Or.inr (hhead token htoken)
      · exact h

theorem isChain_body_append (text : Text) {last : Token} (hlast : last.isFilter = false) :
    (body text ++ [last]).IsChain Apart := by
  induction text using induction_on_breaks isOperatorChar with
  | whole word hword =>
      rw [body_word hword]
      refine isChain_ofWord_append (List.isChain_singleton last) ?_
      intro token htoken
      cases htoken
      exact hlast
  | step word c rest hword hc ih =>
      rcases exists_operator_of_isOperatorChar hc with ⟨operator, hop⟩
      rw [body_append_operator hop, body_word hword, List.append_assoc, List.cons_append]
      refine isChain_ofWord_append (isChain_operator_cons ih) ?_
      intro token htoken
      cases htoken
      exact isFilter_ofOperator operator

theorem map_token_list (text : Text) :
    (list text).map PlacedToken.token = body text ++ [.endOfInput] := by
  rw [list, listFrom_eq_bodyFrom, List.map_append, map_token_bodyFrom]
  rfl

end Token
end Polyquery
