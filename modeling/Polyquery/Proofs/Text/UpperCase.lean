import Polyquery.Proofs.Text.LowerCase

/-!
# Upper case

Upper case is taken character by character.  What comes out has no small letter left that could be raised, so
taking it again changes nothing.
-/

namespace Polyquery
namespace Unicode

/-!
# Characters without upper case
-/

def expansionTree : SearchTree (Nat × List Nat) :=
  .ofTable 7 upperExpansions

theorem find?_expansionTree (code : Nat) :
    expansionTree.find? (fun entry => ⟨entry.1, entry.1⟩) code =
      upperExpansions.find? fun entry => entry.1 == code := by
  have hcovers : ∀ entry : Nat × List Nat,
      (⟨entry.1, entry.1⟩ : Interval).covers code = (entry.1 == code) := by
    intro entry
    rw [Bool.eq_iff_iff, Interval.covers_iff, beq_iff_eq]
    exact Nat.le_antisymm_iff.symm
  rw [expansionTree, SearchTree.find?_ofTable (by decide +kernel) (by decide +kernel)]
  simp only [hcovers]

theorem image_unmapped : ∀ span ∈ upperSpans, ∀ code ∈ span.codes,
    expansionTree.find? (fun entry => ⟨entry.1, entry.1⟩) (span.image code).toNat = none ∧
      shiftCase upperTree (span.image code) = span.image code := by
  decide +kernel

theorem upperChar_image {span : CaseSpan} {code : Nat} (hspan : span ∈ upperSpans)
    (hcode : code ∈ span.codes) : upperChar (span.image code) = [span.image code] := by
  rcases image_unmapped span hspan code hcode with ⟨hlisted, hshift⟩
  rw [find?_expansionTree] at hlisted
  simp only [upperChar, hlisted, hshift]

theorem upperChar_expansion : ∀ entry ∈ upperExpansions, ∀ code ∈ entry.2,
    upperChar (Char.ofNat code) = [Char.ofNat code] := by
  decide +kernel

theorem upperChar_of_mem {c d : Char} (h : d ∈ upperChar c) : upperChar d = [d] := by
  cases hlisted : upperExpansions.find? fun entry => entry.1 == c.toNat with
  | some entry =>
      simp only [upperChar, hlisted, List.mem_map] at h
      rcases h with ⟨code, hcode, rfl⟩
      exact upperChar_expansion entry (List.mem_of_find?_eq_some hlisted) code hcode
  | none =>
      simp only [upperChar, hlisted, List.mem_singleton] at h
      rcases shiftCase_eq_self_or (find?_upperTree c.toNat) with hself | ⟨span, hspan, hcode, himage⟩
      · rw [h, hself]
        simp only [upperChar, hlisted, hself]
      · rw [h, himage]
        exact upperChar_image hspan hcode

end Unicode

namespace Text

open Unicode

theorem upper_upper (text : Text) : upper (upper text) = upper text := by
  rw [upper, upper, List.flatMap_assoc]
  apply List.flatMap_congr
  intro c _
  have hfixed : (upperChar c).flatMap upperChar = (upperChar c).flatMap fun d => [d] :=
    List.flatMap_congr fun d hd => upperChar_of_mem hd
  exact hfixed.trans (List.flatMap_singleton' _)

end Text
end Polyquery
