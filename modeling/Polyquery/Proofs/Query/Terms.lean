import Polyquery.Proofs.Query.Leaves
import Polyquery.Proofs.Query.Nodes
import Polyquery.Proofs.Text.Folding

/-!
# Terms of parsed queries

The terms of a parsed query are trimmed words in lower case.  Written down, alone or behind a negation, such
a term spells the leaf that it came from.
-/

namespace Polyquery

open Text Unicode

structure ValidTerm (term : Text) : Prop where
  nonempty : term ≠ []
  operatorFree : Avoids isOperatorChar term
  first : StartsOutside isBlank term
  last : EndsOutside isBlank term
  lowered : lower term = term

instance (term : Text) : Decidable (ValidTerm term) :=
  decidable_of_iff
    ((term ≠ [] ∧ Avoids isOperatorChar term) ∧
      (StartsOutside isBlank term ∧ EndsOutside isBlank term) ∧ lower term = term)
    ⟨fun h => ⟨h.left.left, h.left.right, h.right.left.left, h.right.left.right, h.right.right⟩,
      fun h => ⟨⟨h.nonempty, h.operatorFree⟩, ⟨h.first, h.last⟩, h.lowered⟩⟩

/-!
# Operators and white space in lower case
-/

def operatorMarks : List Interval := [
  ⟨0x21, 0x21⟩, ⟨0x26, 0x26⟩, ⟨0x2C, 0x2C⟩, ⟨0x3A, 0x3B⟩, ⟨0x7C, 0x7C⟩]

theorem keptByLowering_operatorMarks : KeptByLowering operatorMarks where
  zero := by decide
  dottedI := by decide
  finalSigma := by decide
  combiningDot := by decide
  capitals := by decide +kernel
  smallLetters := by decide +kernel

theorem covered_operatorMarks : covered operatorMarks = isOperatorChar := by
  funext c
  have hcode : ∀ d : Char, c = d ↔ c.toNat = d.toNat := fun d => Char.toNat_inj.symm
  rw [Bool.eq_iff_iff, covered_iff, isOperatorChar_iff, isSeparator_iff]
  simp only [operatorMarks, List.mem_cons, List.not_mem_nil, or_false, exists_eq_or_imp,
    exists_eq_left, hcode, Char.reduceToNat]
  omega

theorem validTerm_lower {term : Text} (hne : term ≠ []) (hplain : Avoids isOperatorChar term)
    (hfirst : StartsOutside isBlank term) (hlast : EndsOutside isBlank term) :
    ValidTerm (lower term) where
  nonempty := lower_ne_nil hne
  operatorFree := by
    rw [← covered_operatorMarks] at hplain ⊢
    exact (avoids_lowerAfter keptByLowering_operatorMarks [] term).mpr hplain
  first := startsOutside_lowerAfter keptByFolding_blanks.lowering [] hfirst
  last := endsOutside_lowerAfter keptByFolding_blanks.lowering [] hlast
  lowered := lower_lower term

/-!
# Terms and segments
-/

namespace Query

theorem exists_leaf_of_spells {segment : Text} {query : Query} (h : Spells segment query) :
    ∃ leaf : Leaf, leaf.query = query := by
  cases h with
  | @filter term _ _ _ => exact ⟨⟨false, lower term⟩, rfl⟩
  | @not _ term _ _ _ _ _ => exact ⟨⟨true, lower term⟩, rfl⟩

theorem validTerm_of_spells {segment : Text} {leaf : Leaf} (hsep : Avoids isSeparator segment)
    (h : Spells segment leaf.query) : ValidTerm leaf.term := by
  rcases leaf with ⟨negated, word⟩
  have hword : ∀ part, part ⊆ trimmed segment → Avoids isSeparator part := by
    intro part hpart c hc
    exact hsep c (mem_of_mem_trimmed (hpart hc))
  cases negated with
  | false =>
      cases h with
      | @filter term hne hplain htrim =>
          subst htrim
          exact validTerm_lower hne (avoids_isOperatorChar_iff.mpr ⟨hplain, hword _ (fun _ h => h)⟩)
            (startsOutside_trimmed segment) (endsOutside_trimmed segment)
  | true =>
      cases h with
      | @not blank term hne hplain hblank hstart htrim =>
          have hend := endsOutside_trimmed segment
          rw [htrim, ← List.cons_append, endsOutside_append hne] at hend
          have hpart : term ⊆ trimmed segment := by
            intro c hc
            rw [htrim]
            exact List.mem_cons_of_mem _ (List.mem_append_right blank hc)
          exact validTerm_lower hne (avoids_isOperatorChar_iff.mpr ⟨hplain, hword _ hpart⟩)
            hstart hend

theorem spells_render {leaf : Leaf} (h : ValidTerm leaf.term) :
    Spells leaf.query.render leaf.query := by
  rcases leaf with ⟨negated, term⟩
  have hplain := (avoids_isOperatorChar_iff.mp h.operatorFree).left
  have hlowered : lower term = term := h.lowered
  cases negated with
  | false =>
      have hspells := Spells.filter h.nonempty hplain (trimmed_eq_self h.first h.last)
      rw [hlowered] at hspells
      exact hspells
  | true =>
      have hstart : StartsOutside isBlank ('!' :: term) := startsOutside_cons.mpr (by decide)
      have hend : EndsOutside isBlank ('!' :: term) := by
        rw [← List.singleton_append, endsOutside_append h.nonempty]
        exact h.last
      have hspells := @Spells.not _ [] term h.nonempty hplain rfl h.first
        (trimmed_eq_self hstart hend)
      rw [hlowered] at hspells
      exact hspells

end Query
end Polyquery
