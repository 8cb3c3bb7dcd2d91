import Polyquery.Proofs.Query.Tokens
import Polyquery.Proofs.Text.LowerCase
import Polyquery.Proofs.Text.Slices

/-!
# How tokens are written

A text is white space and then its tokens as they are written, one behind the other.  An operator is written
as its character and the white space that follows.  A term is written as a run of other characters that goes
up to the next operator, so the white space behind it is part of it.
-/

namespace Polyquery
namespace Token

open Text Unicode

inductive SpelledBy : Token → Text → Prop
  | operator {c : Char} {operator : Operator} {blank : Text} :
      Operator.ofChar? c = some operator →
      (∀ d ∈ blank, isBlank d = true) →
      SpelledBy (.ofOperator operator) (c :: blank)
  | filter {c : Char} {tail : Text} :
      isBlank c = false →
      Avoids isOperatorChar (c :: tail) →
      lower (trimRight (c :: tail)) ≠ [] →
      SpelledBy (.filter (lower (trimRight (c :: tail)))) (c :: tail)

/-- Tokens written one behind the other from byte `position` on, up to the end of the text. -/
inductive Spelled : Nat → Text → List PlacedToken → Prop
  | last (position : Nat) : Spelled position [] [{ token := .endOfInput, position := position }]
  | cons {position : Nat} {token : Token} {spelling rest : Text} {tokens : List PlacedToken} :
      token.SpelledBy spelling →
      Spelled (position + byteSize spelling) rest tokens →
      Spelled position (spelling ++ rest) ({ token := token, position := position } :: tokens)

theorem SpelledBy.byteSize_pos {token : Token} {spelling : Text} (h : token.SpelledBy spelling) :
    0 < byteSize spelling := by
  cases h with
  | operator => exact Nat.add_pos_left (Char.utf8Size_pos _) _
  | filter => exact Nat.add_pos_left (Char.utf8Size_pos _) _

/-!
# The tokens of a text as they are written
-/

theorem spelledBy_filter {c : Char} {tail : Text} (hblank : isBlank c = false)
    (havoid : Avoids isOperatorChar (c :: tail)) :
    SpelledBy (.filter (lower (trimRight (c :: tail)))) (c :: tail) := by
  apply SpelledBy.filter hblank havoid
  apply lower_ne_nil
  exact dropTrailing_ne_nil List.mem_cons_self hblank

theorem spelled_placedWord_append {word rest : Text} {position : Nat} {tokens : List PlacedToken}
    (hword : Avoids isOperatorChar word) (hrest : Spelled (position + byteSize word) rest tokens) :
    ∃ blank text, word ++ rest = blank ++ text ∧ (∀ c ∈ blank, isBlank c = true) ∧
      Spelled (position + byteSize blank) text (placedWord position word ++ tokens) := by
  cases hblank : isBlankText word with
  | true =>
      refine ⟨word, rest, rfl, isBlankText_iff.mp hblank, ?_⟩
      rw [placedWord, ofWord_of_blank hblank]
      exact hrest
  | false =>
      rcases exists_term_of_word hword hblank with ⟨c, tail, htrim, hsplit, hc, hterm⟩
      refine ⟨word.takeWhile isBlank, c :: tail ++ rest, ?_, ?_, ?_⟩
      · rw [← List.append_assoc, hsplit]
      · intro d hd
        exact List.mem_takeWhile_imp hd
      · rw [placedWord, ofWord_of_not_blank hblank, trimmed, htrim]
        refine Spelled.cons (spelledBy_filter hc hterm) ?_
        rw [Nat.add_assoc, ← byteSize_append, hsplit]
        exact hrest

theorem spelled_listFrom (position : Nat) (text : Text) :
    ∃ blank rest, text = blank ++ rest ∧ (∀ c ∈ blank, isBlank c = true) ∧
      Spelled (position + byteSize blank) rest (listFrom position text) := by
  induction text using induction_on_breaks isOperatorChar generalizing position with
  | whole word hword =>
      have h := spelled_placedWord_append hword (Spelled.last (position + byteSize word))
      rw [List.append_nil, ← listFrom_word hword] at h
      exact h
  | step word c rest hword hc ih =>
      rcases exists_operator_of_isOperatorChar hc with ⟨operator, hop⟩
      rcases ih (position + byteSize word + c.utf8Size) with ⟨blank, text, hrest, hblank, htokens⟩
      have hspelled : Spelled (position + byteSize word) (c :: rest)
          ({ token := .ofOperator operator, position := position + byteSize word } ::
            listFrom (position + byteSize word + c.utf8Size) rest) := by
        rw [Nat.add_assoc (position + byteSize word), ← byteSize_cons] at htokens
        have h := Spelled.cons (SpelledBy.operator hop hblank) htokens
        rw [List.cons_append, ← hrest] at h
        exact h
      rw [listFrom_word_operator hword hop]
      exact spelled_placedWord_append hword hspelled

/-!
# What follows from the written form
-/

namespace Spelled

variable {position : Nat} {text : Text} {tokens : List PlacedToken}

theorem position_of_head? (h : Spelled position text tokens) :
    ∀ placed ∈ tokens.head?, placed.position = position := by
  intro placed hplaced
  cases h <;> cases hplaced <;> rfl

theorem exists_before (h : Spelled position text tokens) :
    ∀ placed ∈ tokens, ∃ before after, text = before ++ after ∧
      placed.position = position + byteSize before := by
  induction h with
  | last position =>
      intro placed hplaced
      rw [List.mem_singleton.mp hplaced]
      exact ⟨[], [], rfl, rfl⟩
  | @cons position token spelling rest tokens _ _ ih =>
      intro placed hplaced
      rcases List.mem_cons.mp hplaced with rfl | hlater
      · exact ⟨[], spelling ++ rest, rfl, rfl⟩
      · rcases ih placed hlater with ⟨before, after, hrest, hplace⟩
        refine ⟨spelling ++ before, after, ?_, ?_⟩
        · rw [hrest, List.append_assoc]
        · rw [hplace, byteSize_append, Nat.add_assoc]

theorem pairwise_lt (h : Spelled position text tokens) :
    tokens.Pairwise fun left right => left.position < right.position := by
  induction h with
  | last position => exact List.pairwise_singleton _ _
  | @cons position token spelling rest tokens hspelled hrest ih =>
      refine List.pairwise_cons.mpr ⟨?_, ih⟩
      intro placed hplaced
      rcases hrest.exists_before placed hplaced with ⟨before, after, _, hplace⟩
      have hpos := hspelled.byteSize_pos
      have hlt : position < placed.position := by
        rw [hplace]
        omega
      exact hlt

theorem isChain_slice? {before : Text} (h : Spelled position text tokens)
    (hposition : byteSize before = position) :
    tokens.IsChain fun left right =>
      ∃ spelling, slice? left.position right.position (before ++ text) = some spelling ∧
        left.token.SpelledBy spelling := by
  induction h generalizing before with
  | last position => exact List.isChain_singleton _
  | @cons position token spelling rest tokens hspelled hrest ih =>
      subst hposition
      rw [List.isChain_cons]
      constructor
      · intro next hnext
        refine ⟨spelling, ?_, hspelled⟩
        rw [hrest.position_of_head? next hnext]
        exact slice?_of_tailAt? (tailAt?_append before (spelling ++ rest))
      · rw [← List.append_assoc]
        exact ih (byteSize_append before spelling)

end Spelled
end Token
end Polyquery
