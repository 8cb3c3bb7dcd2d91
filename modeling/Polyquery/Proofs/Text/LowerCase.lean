import Polyquery.Proofs.Text.Runs
import Polyquery.Proofs.Unicode.Tables

/-!
# Lower case

Lower case is taken character by character, up to the form of a sigma.  What comes out has no capital left,
so taking it again changes nothing.  A class of characters without letters is neither entered nor left, so
it occurs in a text, or at an end of it, if and only if it does so in the lower case of the text.  Whether
a class given by intervals is of this kind can be read off the tables.
-/

namespace Polyquery
namespace Unicode

open Text

/-!
# Intervals without characters of a class
-/

/-- No interval of the list meets the code points from `first` to `last`. -/
def Clear (ranges : List Interval) (first last : Nat) : Prop :=
  ∀ range ∈ ranges, last < range.first ∨ range.last < first

instance (ranges : List Interval) (first last : Nat) : Decidable (Clear ranges first last) :=
  inferInstanceAs (Decidable (∀ range ∈ ranges, last < range.first ∨ range.last < first))

variable {ranges : List Interval}

theorem covered_of_clear {first last : Nat} {c : Char} (h : Clear ranges first last)
    (hfirst : first ≤ c.toNat) (hlast : c.toNat ≤ last) : covered ranges c = false := by
  cases hcovered : covered ranges c with
  | false => rfl
  | true =>
      rcases covered_iff.mp hcovered with ⟨range, hrange, hlow, hhigh⟩
      rcases h range hrange with hbelow | habove
      · omega
      · omega

theorem toNat_ofNat_or_zero (code : Nat) :
    (Char.ofNat code).toNat = code ∨ (Char.ofNat code).toNat = 0 := by
  by_cases hvalid : code.isValidChar
  · apply Or.inl
    rw [Char.ofNat, dif_pos hvalid]
    rfl
  · apply Or.inr
    rw [Char.ofNat, dif_neg hvalid]
    rfl

/-- A number that is no code point stands for the character zero. -/
theorem covered_ofNat_of_clear {first last code : Nat} (hzero : Clear ranges 0 0)
    (h : Clear ranges first last) (hfirst : first ≤ code) (hlast : code ≤ last) :
    covered ranges (Char.ofNat code) = false := by
  rcases toNat_ofNat_or_zero code with hcode | hcode
  · exact covered_of_clear h (by omega) (by omega)
  · exact covered_of_clear hzero (by omega) (by omega)

/-- What the tables must say of a class so that lower case neither adds characters of the class to a text
nor takes any away. -/
structure KeptByLowering (ranges : List Interval) : Prop where
  zero : Clear ranges 0 0
  dottedI : Clear ranges 0x130 0x130
  finalSigma : Clear ranges 0x3C2 0x3C2
  combiningDot : Clear ranges 0x307 0x307
  capitals : ∀ span ∈ lowerSpans, Clear ranges span.first span.last
  smallLetters : ∀ span ∈ lowerSpans,
    Clear ranges (Int.toNat (span.first + span.shift)) (Int.toNat (span.last + span.shift))

/-!
# What a table changes
-/

def CaseSpan.codes (span : CaseSpan) : List Nat :=
  (List.range' span.first (span.last + 1 - span.first)).filter span.covers

theorem CaseSpan.mem_codes {span : CaseSpan} {code : Nat} (h : span.covers code = true) :
    code ∈ span.codes := by
  have hinterval : span.first ≤ code ∧ code ≤ span.last := by
    rw [covers, Bool.and_eq_true] at h
    exact Interval.covers_iff.mp h.left
  rw [codes, List.mem_filter, List.mem_range'_1]
  exact ⟨⟨hinterval.left, by omega⟩, h⟩

theorem CaseSpan.le_of_mem_codes {span : CaseSpan} {code : Nat} (h : code ∈ span.codes) :
    span.first ≤ code ∧ code ≤ span.last := by
  rw [codes, List.mem_filter, List.mem_range'_1] at h
  omega

theorem shiftCase_eq_self_or {tree : SearchTree CaseSpan} {spans : List CaseSpan} {c : Char}
    (htree : tree.find? CaseSpan.interval c.toNat =
      spans.find? fun span => span.interval.covers c.toNat) :
    shiftCase tree c = c ∨
      ∃ span ∈ spans, c.toNat ∈ span.codes ∧ shiftCase tree c = span.image c.toNat := by
  rw [shiftCase, htree]
  cases hfind : spans.find? fun span => span.interval.covers c.toNat with
  | none => exact Or.inl rfl
  | some span =>
      simp only []
      split
      · rename_i hcovers
        exact Or.inr ⟨span, List.mem_of_find?_eq_some hfind, CaseSpan.mem_codes hcovers, rfl⟩
      · exact Or.inl rfl

theorem lowerChar_eq_self_or (c : Char) :
    lowerChar c = [c] ∨ c = capitalDottedI ∨
      ∃ span ∈ lowerSpans, c.toNat ∈ span.codes ∧ lowerChar c = [span.image c.toNat] := by
  by_cases hdotted : c = capitalDottedI
  · exact Or.inr (Or.inl hdotted)
  · rw [lowerChar, if_neg hdotted]
    rcases shiftCase_eq_self_or (find?_lowerTree c.toNat) with hself | ⟨span, hspan, hcode, himage⟩
    · exact Or.inl (by rw [hself])
    · exact Or.inr (Or.inr ⟨span, hspan, hcode, by rw [himage]⟩)

/-!
# One character
-/

/-- The lower case of a character between its neighbours, those on its left given backwards. -/
def lowerBetween (before : Text) (c : Char) (rest : Text) : Text :=
  if c = capitalSigma then
    [if reachesCased before && !reachesCased rest then finalSigma else smallSigma]
  else lowerChar c

theorem lowerAfter_cons (before : Text) (c : Char) (rest : Text) :
    lowerAfter before (c :: rest) = lowerBetween before c rest ++ lowerAfter (c :: before) rest :=
  rfl

theorem lowerBetween_ne_nil (before : Text) (c : Char) (rest : Text) :
    lowerBetween before c rest ≠ [] := by
  rw [lowerBetween, lowerChar]
  split
  · exact List.cons_ne_nil _ _
  · split
    · exact List.cons_ne_nil _ _
    · exact List.cons_ne_nil _ _

theorem covered_shiftCase (h : KeptByLowering ranges) (c : Char) :
    covered ranges (shiftCase lowerTree c) = covered ranges c := by
  rcases shiftCase_eq_self_or (find?_lowerTree c.toNat) with hself | ⟨span, hspan, hcode, himage⟩
  · rw [hself]
  · have hbounds := CaseSpan.le_of_mem_codes hcode
    rw [himage, covered_of_clear (h.capitals span hspan) hbounds.left hbounds.right]
    exact covered_ofNat_of_clear h.zero (h.smallLetters span hspan) (by omega) (by omega)

theorem avoids_lowerChar (h : KeptByLowering ranges) (c : Char) :
    Avoids (covered ranges) (lowerChar c) ↔ covered ranges c = false := by
  rw [lowerChar]
  split
  · rename_i hdotted
    have hc : covered ranges c = false := by
      rw [hdotted]
      exact covered_of_clear h.dottedI (by decide) (by decide)
    have hi : covered ranges 'i' = false :=
      covered_of_clear (h.smallLetters ⟨0x41, 0x5A, 1, 32⟩ (by decide)) (by decide) (by decide)
    have hdot : covered ranges (Char.ofNat 0x307) = false :=
      covered_ofNat_of_clear h.zero h.combiningDot (by decide) (by decide)
    exact iff_of_true (avoids_cons.mpr ⟨hi, avoids_cons.mpr ⟨hdot, avoids_nil⟩⟩) hc
  · rw [avoids_cons, covered_shiftCase h]
    exact and_iff_left avoids_nil

theorem covered_sigma (h : KeptByLowering ranges) :
    covered ranges capitalSigma = false ∧ covered ranges smallSigma = false ∧
      covered ranges finalSigma = false := by
  have hspan : ⟨0x3A3, 0x3AB, 1, 32⟩ ∈ lowerSpans := by decide
  refine ⟨?_, ?_, ?_⟩
  · exact covered_of_clear (h.capitals _ hspan) (by decide) (by decide)
  · exact covered_of_clear (h.smallLetters _ hspan) (by decide) (by decide)
  · exact covered_of_clear h.finalSigma (by decide) (by decide)

theorem avoids_lowerBetween (h : KeptByLowering ranges) (before : Text) (c : Char)
    (rest : Text) :
    Avoids (covered ranges) (lowerBetween before c rest) ↔ covered ranges c = false := by
  rw [lowerBetween]
  split
  · -- either form of the small sigma stands for the capital
    rename_i hsigma
    rcases covered_sigma h with ⟨hcapital, hsmall, hfinal⟩
    rw [hsigma, avoids_cons]
    split
    · rw [hcapital, hfinal]
      simp [avoids_nil]
    · rw [hcapital, hsmall]
      simp [avoids_nil]
  · exact avoids_lowerChar h c

/-!
# Classes that lower case keeps
-/

theorem avoids_lowerAfter (h : KeptByLowering ranges) (before text : Text) :
    Avoids (covered ranges) (lowerAfter before text) ↔ Avoids (covered ranges) text := by
  induction text generalizing before with
  | nil => exact Iff.rfl
  | cons c rest ih =>
      rw [lowerAfter_cons, avoids_append, avoids_cons, ih (c :: before), avoids_lowerBetween h]

theorem lowerAfter_ne_nil (before : Text) {text : Text} (h : text ≠ []) :
    lowerAfter before text ≠ [] := by
  cases text with
  | nil => exact absurd rfl h
  | cons c rest =>
      rw [lowerAfter_cons]
      exact List.append_ne_nil_of_left_ne_nil (lowerBetween_ne_nil before c rest) _

theorem startsOutside_lowerAfter (h : KeptByLowering ranges) (before : Text) {text : Text}
    (htext : StartsOutside (covered ranges) text) :
    StartsOutside (covered ranges) (lowerAfter before text) := by
  cases text with
  | nil => exact htext
  | cons c rest =>
      rw [lowerAfter_cons, startsOutside_append (lowerBetween_ne_nil before c rest)]
      apply Avoids.startsOutside
      exact (avoids_lowerBetween h before c rest).mpr (startsOutside_cons.mp htext)

theorem endsOutside_lowerAfter (h : KeptByLowering ranges) (before : Text) {text : Text}
    (htext : EndsOutside (covered ranges) text) :
    EndsOutside (covered ranges) (lowerAfter before text) := by
  induction text generalizing before with
  | nil => exact htext
  | cons c rest ih =>
      rw [lowerAfter_cons]
      by_cases hrest : rest = []
      · subst hrest
        apply Avoids.endsOutside
        rw [lowerAfter, List.append_nil, avoids_lowerBetween h]
        exact htext c rfl
      · rw [← List.singleton_append, endsOutside_append hrest] at htext
        rw [endsOutside_append (lowerAfter_ne_nil _ hrest)]
        exact ih (c :: before) htext

theorem lowerBetween_of_covered (h : KeptByLowering ranges) (before : Text) {c : Char}
    (rest : Text) (hc : covered ranges c = true) : lowerBetween before c rest = [c] := by
  have hsigma : c ≠ capitalSigma := by
    intro heq
    rw [heq, (covered_sigma h).left] at hc
    cases hc
  have hdotted : c ≠ capitalDottedI := by
    intro heq
    rw [heq, covered_of_clear h.dottedI (by decide) (by decide)] at hc
    cases hc
  have hspan : lowerSpans.find? (fun span => span.interval.covers c.toNat) = none := by
    apply List.find?_eq_none.mpr
    intro span hspan hcovers
    rcases Interval.covers_iff.mp hcovers with ⟨hfirst, hlast⟩
    rw [covered_of_clear (h.capitals span hspan) hfirst hlast] at hc
    cases hc
  rw [lowerBetween, if_neg hsigma, lowerChar, if_neg hdotted, shiftCase, find?_lowerTree, hspan]

theorem exists_append_of_lowerAfter_eq (h : KeptByLowering ranges) {before text run out : Text}
    (hrun : ∀ c ∈ run, covered ranges c = true) (heq : lowerAfter before text = run ++ out) :
    ∃ rest, text = run ++ rest ∧ lowerAfter (run.reverse ++ before) rest = out := by
  induction run generalizing before text with
  | nil => exact ⟨text, rfl, heq⟩
  | cons d run ih =>
      rcases List.forall_mem_cons.mp hrun with ⟨hd, hrest⟩
      cases text with
      | nil => cases heq
      | cons c rest =>
          rw [lowerAfter_cons] at heq
          cases hc : covered ranges c with
          | false =>
              -- the lower case of any other character is outside the class, but `d` is in it
              have hstart := ((avoids_lowerBetween h before c rest).mpr hc).startsOutside
              rw [← startsOutside_append (lowerBetween_ne_nil before c rest), heq,
                List.cons_append, startsOutside_cons, hd] at hstart
              cases hstart
          | true =>
              rw [lowerBetween_of_covered h before rest hc] at heq
              rcases List.cons.inj heq with ⟨rfl, htail⟩
              rcases ih hrest htail with ⟨remainder, htext, hout⟩
              refine ⟨remainder, by rw [htext, List.cons_append], ?_⟩
              rw [List.reverse_cons, List.append_assoc, List.singleton_append]
              exact hout

/-!
# Lower case at a boundary

The form of a sigma depends on the nearest characters around it that are not case-ignorable.  Where a text
begins or ends with one that is neither case-ignorable nor cased, what stands beyond it does not matter.
-/

def Caseless (text : Text) : Prop :=
  StartsOutside isCaseIgnorable text ∧ StartsOutside isCased text

theorem reachesCased_append {rest : Text} (h : Caseless rest) (text : Text) :
    reachesCased (text ++ rest) = reachesCased text := by
  induction text with
  | nil =>
      rw [List.nil_append, reachesCased, dropWhile_eq_self_of_startsOutside h.left]
      cases rest with
      | nil => rfl
      | cons c rest => exact startsOutside_cons.mp h.right
  | cons c text ih =>
      rw [reachesCased, reachesCased] at ih ⊢
      rw [List.cons_append, List.dropWhile_cons, List.dropWhile_cons]
      split
      · exact ih
      · rfl

theorem lowerAfter_of_before {before : Text} (h : Caseless before) (near text : Text) :
    lowerAfter (near ++ before) text = lowerAfter near text := by
  induction text generalizing near with
  | nil => rfl
  | cons c rest ih =>
      rw [lowerAfter, lowerAfter, reachesCased_append h, ← List.cons_append, ih (c :: near)]

theorem lowerAfter_append {rest : Text} (h : Caseless rest) (before text : Text) :
    lowerAfter before (text ++ rest) =
      lowerAfter before text ++ lowerAfter (text.reverse ++ before) rest := by
  induction text generalizing before with
  | nil => rfl
  | cons c text ih =>
      rw [List.cons_append, lowerAfter, lowerAfter, reachesCased_append h, ih (c :: before),
        List.reverse_cons, List.append_assoc, List.append_assoc, List.singleton_append]

theorem lowerAfter_run {ranges : List Interval} (h : KeptByLowering ranges) {run : Text}
    (hrun : ∀ c ∈ run, covered ranges c = true) (before rest : Text) :
    lowerAfter before (run ++ rest) = run ++ lowerAfter (run.reverse ++ before) rest := by
  induction run generalizing before with
  | nil => rfl
  | cons c run ih =>
      rcases List.forall_mem_cons.mp hrun with ⟨hc, hrest⟩
      rw [List.cons_append, lowerAfter_cons, lowerBetween_of_covered h before _ hc,
        ih hrest (c :: before), List.reverse_cons, List.append_assoc, List.singleton_append,
        List.singleton_append, List.cons_append]

theorem length_lowerBetween (before : Text) (c : Char) (rest : Text) :
    (lowerBetween before c rest).length = (lowerChar c).length := by
  rw [lowerBetween]
  split
  · rename_i hsigma
    have hne : capitalSigma ≠ capitalDottedI := by decide
    rw [hsigma, List.length_singleton, lowerChar, if_neg hne, List.length_singleton]
  · rfl

theorem length_lowerAfter_append (before other left right : Text) :
    (lowerAfter before (left ++ right)).length =
      (lowerAfter before left).length + (lowerAfter other right).length := by
  have hsum : ∀ text place, (lowerAfter place text).length =
      (text.map fun c => (lowerChar c).length).sum := by
    intro text
    induction text with
    | nil =>
        intro place
        rfl
    | cons c rest ih =>
        intro place
        rw [lowerAfter_cons, List.length_append, length_lowerBetween, ih, List.map_cons,
          List.sum_cons]
  rw [hsum, hsum, hsum, List.map_append, List.sum_append]

/-!
# Small letters
-/

theorem lowerChar_image : ∀ span ∈ lowerSpans, ∀ code ∈ span.codes,
    lowerChar (span.image code) = [span.image code] := by
  decide +kernel

theorem lowerChar_of_mem {c d : Char} (h : d ∈ lowerChar c) : lowerChar d = [d] := by
  rcases lowerChar_eq_self_or c with hself | hdotted | ⟨span, hspan, hcode, himage⟩
  · rw [hself, List.mem_singleton] at h
    rw [h, hself]
  · rw [hdotted, lowerChar, if_pos rfl] at h
    have hparts : lowerChar 'i' = ['i'] ∧
        lowerChar (Char.ofNat 0x307) = [Char.ofNat 0x307] := by
      decide +kernel
    rcases List.mem_cons.mp h with heq | h
    · rw [heq]
      exact hparts.left
    · rw [List.mem_singleton.mp h]
      exact hparts.right
  · rw [himage, List.mem_singleton] at h
    rw [h]
    exact lowerChar_image span hspan c.toNat hcode

theorem lowerChar_sigma :
    lowerChar finalSigma = [finalSigma] ∧ lowerChar smallSigma = [smallSigma] ∧
      lowerChar capitalSigma ≠ [capitalSigma] := by
  decide +kernel

theorem lowerChar_of_mem_lowerAfter {before text : Text} {d : Char}
    (h : d ∈ lowerAfter before text) : lowerChar d = [d] := by
  induction text generalizing before with
  | nil => cases h
  | cons c rest ih =>
      rw [lowerAfter_cons, List.mem_append, lowerBetween] at h
      rcases h with h | h
      · split at h
        · rcases lowerChar_sigma with ⟨hfinal, hsmall, _⟩
          rw [List.mem_singleton.mp h]
          split
          · exact hfinal
          · exact hsmall
        · exact lowerChar_of_mem h
      · exact ih h

theorem lowerAfter_eq_self {before text : Text} (h : ∀ d ∈ text, lowerChar d = [d]) :
    lowerAfter before text = text := by
  induction text generalizing before with
  | nil => rfl
  | cons c rest ih =>
      rcases List.forall_mem_cons.mp h with ⟨hc, hrest⟩
      have hsigma : c ≠ capitalSigma := by
        intro heq
        subst heq
        exact lowerChar_sigma.right.right hc
      rw [lowerAfter_cons, lowerBetween, if_neg hsigma, hc, ih hrest, List.singleton_append]

end Unicode

namespace Text

open Unicode

theorem lower_ne_nil {text : Text} (h : text ≠ []) : lower text ≠ [] :=
  lowerAfter_ne_nil [] h

theorem lower_lower (text : Text) : lower (lower text) = lower text :=
  lowerAfter_eq_self fun _ h => lowerChar_of_mem_lowerAfter h

end Text
end Polyquery
