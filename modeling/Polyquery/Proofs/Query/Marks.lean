import Polyquery.Proofs.Query.Segments
import Polyquery.Proofs.Text.LowerCase

/-!
# Marks in lower case

The marks around a term have no case and belong to no word, so lower case leaves them where they are, and
what it makes of a term does not depend on them.  It therefore does not matter whether a text is split first
or taken to lower case first.
-/

namespace Polyquery
namespace Segment

open Text Unicode

def leadMarks : List Interval := [
  ⟨0x0A, 0x0A⟩, ⟨0x20, 0x21⟩, ⟨0x23, 0x23⟩, ⟨0x2B, 0x2B⟩, ⟨0x2D, 0x2D⟩, ⟨0x30, 0x39⟩, ⟨0x40, 0x40⟩]

def trailMarks : List Interval := [
  ⟨0x0A, 0x0A⟩, ⟨0x20, 0x20⟩, ⟨0x2A, 0x2A⟩, ⟨0x2D, 0x2D⟩, ⟨0x30, 0x39⟩]

theorem covered_leadMarks : covered leadMarks = isLeadChar := by
  funext c
  have hcode : ∀ d : Char, c = d ↔ c.toNat = d.toNat := fun d => Char.toNat_inj.symm
  rw [Bool.eq_iff_iff, covered_iff]
  simp only [leadMarks, isLeadChar, List.mem_cons, List.not_mem_nil, or_false, exists_eq_or_imp,
    exists_eq_left, Bool.or_eq_true, beq_iff_eq, hcode, Char.reduceToNat, Char.isDigit_iff_toNat]
  omega

theorem covered_trailMarks : covered trailMarks = isTrailChar := by
  funext c
  have hcode : ∀ d : Char, c = d ↔ c.toNat = d.toNat := fun d => Char.toNat_inj.symm
  rw [Bool.eq_iff_iff, covered_iff]
  simp only [trailMarks, isTrailChar, List.mem_cons, List.not_mem_nil, or_false, exists_eq_or_imp,
    exists_eq_left, Bool.or_eq_true, beq_iff_eq, hcode, Char.reduceToNat, Char.isDigit_iff_toNat]
  omega

theorem keptByLowering_leadMarks : KeptByLowering leadMarks where
  zero := by decide
  dottedI := by decide
  finalSigma := by decide
  combiningDot := by decide
  capitals := by decide +kernel
  smallLetters := by decide +kernel

theorem keptByLowering_trailMarks : KeptByLowering trailMarks where
  zero := by decide
  dottedI := by decide
  finalSigma := by decide
  combiningDot := by decide
  capitals := by decide +kernel
  smallLetters := by decide +kernel

theorem clear_marks : ∀ range ∈ leadMarks ++ trailMarks,
    Clear caseIgnorableRanges range.first range.last ∧
      Clear casedRanges range.first range.last := by
  decide +kernel

theorem caseless_of_marks {ranges : List Interval} (hranges : ranges ⊆ leadMarks ++ trailMarks)
    {text : Text} (h : ∀ c ∈ text, covered ranges c = true) : Caseless text := by
  have hclear : ∀ c ∈ text, isCaseIgnorable c = false ∧ isCased c = false := by
    intro c hc
    rcases covered_iff.mp (h c hc) with ⟨range, hrange, hfirst, hlast⟩
    rcases clear_marks range (hranges hrange) with ⟨hignorable, hcased⟩
    exact ⟨covered_of_clear hignorable hfirst hlast, covered_of_clear hcased hfirst hlast⟩
  exact ⟨Avoids.startsOutside fun c hc => (hclear c hc).left,
    Avoids.startsOutside fun c hc => (hclear c hc).right⟩

theorem lower_marks_append {lead trail : Text} (core : Text)
    (hlead : ∀ c ∈ lead, isLeadChar c = true) (htrail : ∀ c ∈ trail, isTrailChar c = true) :
    lower (lead ++ (core ++ trail)) = lead ++ (lower core ++ trail) := by
  rw [← covered_leadMarks] at hlead
  rw [← covered_trailMarks] at htrail
  have hbefore : Caseless lead.reverse :=
    caseless_of_marks (List.subset_append_left _ _) fun c hc => hlead c (List.mem_reverse.mp hc)
  have hbehind : Caseless trail := caseless_of_marks (List.subset_append_right _ _) htrail
  have hkept : ∀ before, lowerAfter before trail = trail := by
    intro before
    have hrun := lowerAfter_run keptByLowering_trailMarks htrail before []
    rw [List.append_nil] at hrun
    rw [hrun, lowerAfter, List.append_nil]
  have hcore := lowerAfter_of_before hbefore [] core
  rw [List.nil_append] at hcore
  rw [lower, lower, lowerAfter_run keptByLowering_leadMarks hlead, List.append_nil,
    lowerAfter_append hbehind, hkept, hcore]

theorem lower_of_core_eq_nil {text : Text} (h : (ofText text).core = []) :
    lower text = text := by
  have hsplit := lead_append_core_append_trail text
  have hlead : ∀ c ∈ (ofText text).lead, isLeadChar c = true := fun c hc => isLeadChar_of_mem_lead hc
  have htrail : ∀ c ∈ (ofText text).trail, isTrailChar c = true :=
    fun c hc => isTrailChar_of_mem_trail hc
  have hlower := lower_marks_append [] hlead htrail
  rw [h] at hsplit
  rw [hsplit] at hlower
  rw [hlower]
  exact hsplit

/-- The lower case of a text splits where the text does. -/
theorem ofText_lower (text : Text) :
    ofText (lower text) = { ofText text with core := lower (ofText text).core } := by
  by_cases hnil : (ofText text).core = []
  · rw [lower_of_core_eq_nil hnil, hnil]
    cases hsplit : ofText text with
    | mk lead core trail =>
        rw [hsplit] at hnil
        cases hnil
        rfl
  · have hlead : ∀ c ∈ (ofText text).lead, isLeadChar c = true :=
      fun c hc => isLeadChar_of_mem_lead hc
    have htrail : ∀ c ∈ (ofText text).trail, isTrailChar c = true :=
      fun c hc => isTrailChar_of_mem_trail hc
    have hcore : FitsAsCore (lower (ofText text).core) := by
      refine ⟨lower_ne_nil hnil, ?_, ?_⟩
      · have hfirst := core_startsOutside text
        rw [← covered_leadMarks] at hfirst ⊢
        exact startsOutside_lowerAfter keptByLowering_leadMarks [] hfirst
      · have hlast := core_endsOutside text
        rw [← covered_trailMarks] at hlast ⊢
        exact endsOutside_lowerAfter keptByLowering_trailMarks [] hlast
    have hlower := lower_marks_append (ofText text).core hlead htrail
    rw [lead_append_core_append_trail, ← List.append_assoc] at hlower
    rw [hlower]
    exact ofText_marks_append hlead hcore htrail

end Segment
end Polyquery
