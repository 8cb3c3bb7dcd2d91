import Polyquery.Proofs.Text.LowerKey
import Polyquery.Proofs.Text.UpperCase

/-!
# Small letters and their capitals

Most characters have the parts of their capital, once that is in lower case, and so the key of their capital.
The key of the others is shorter than that of their capital, as with a sharp s, or they share the capital of
another small letter, as the dotless i does.  No capital, and no small letter of one, has such a stray among its
parts.
-/

namespace Polyquery
namespace Unicode

open Text

/-!
# Characters and their capitals
-/

/-- Small letters whose capital is the capital of another small letter, which has another key. -/
def strays : List Interval := [
  ⟨0xB5, 0xB5⟩, ⟨0x131, 0x131⟩, ⟨0x17F, 0x17F⟩, ⟨0x3D0, 0x3D1⟩, ⟨0x3D5, 0x3D6⟩, ⟨0x3F0, 0x3F1⟩,
  ⟨0x3F5, 0x3F5⟩, ⟨0x1C80, 0x1C88⟩, ⟨0x1E9B, 0x1E9B⟩]

def isStray (c : Char) : Bool :=
  covered strays c

/-- The capital has another key, of the same length, and the key of the character has a stray in it. -/
structure Astray (c : Char) : Prop where
  raised : upperChar c ≠ [c]
  length_eq : (folded (upperChar c)).length = (folded [c]).length
  folded_ne : folded (upperChar c) ≠ folded [c]
  stray : (folded [c]).any isStray = true

instance (c : Char) : Decidable (Astray c) :=
  decidable_of_iff (upperChar c ≠ [c] ∧ (folded (upperChar c)).length = (folded [c]).length ∧
    folded (upperChar c) ≠ folded [c] ∧ (folded [c]).any isStray = true)
    ⟨fun ⟨hraised, hlength, hne, hstray⟩ => ⟨hraised, hlength, hne, hstray⟩,
      fun h => ⟨h.raised, h.length_eq, h.folded_ne, h.stray⟩⟩

/-- In lower case, the capital has the parts of the character, and it looks to a sigma like the character,
from both sides. -/
structure SameParts (c : Char) (capital : Text) : Prop where
  sigma : capitalSigma ∉ capital
  parts : parts (capital.flatMap lowerChar) = parts (lowerChar c)
  near : nearest capital = nearest [c]
  back : nearest capital.reverse = nearest [c]

instance (c : Char) (capital : Text) : Decidable (SameParts c capital) :=
  decidable_of_iff (capitalSigma ∉ capital ∧
    Text.parts (capital.flatMap lowerChar) = Text.parts (lowerChar c) ∧
    nearest capital = nearest [c] ∧ nearest capital.reverse = nearest [c])
    ⟨fun ⟨hsigma, hparts, hnear, hback⟩ => ⟨hsigma, hparts, hnear, hback⟩,
      fun h => ⟨h.sigma, h.parts, h.near, h.back⟩⟩

def AmongCased (first last : Nat) : Prop :=
  (∃ range ∈ casedTree.find? id first, last ≤ range.last) ∧
    caseIgnorableTree.misses id first last = true

instance (first last : Nat) : Decidable (AmongCased first last) :=
  inferInstanceAs (Decidable (_ ∧ _))

structure RaiseTables : Prop where
  sigmas : ∀ sigma ∈ sigmas,
    upperChar sigma = [capitalSigma] ∧ nearest [sigma] = some true
  loweredSigma : lowerChar capitalSigma = [smallSigma]
  /-- Only the capital sigma becomes a small sigma. -/
  sigmaImages : ∀ span ∈ lowerSpans, span.images.last < 0x3C2 ∨ 0x3C3 < span.images.first ∨
    0x3A2 < span.first ∧ span.shift = 32
  strays : ∀ range ∈ strays, ∀ code ∈ List.range' range.first (range.last + 1 - range.first),
    Astray (Char.ofNat code)
  strayImages : ∀ span ∈ lowerSpans, Clear Unicode.strays span.images.first span.images.last
  strayParts : ∀ run ∈ Decomposition.runs, run.first = 0x1E9B ∧ run.parts.length = 1 ∨
    ∀ parts ∈ run.parts, ∀ part ∈ parts, Clear Unicode.strays part part
  strayLetters : ∀ range ∈ caselessRanges, Clear Unicode.strays range.first range.last
  strayZero : Clear Unicode.strays 0 0
  expansions : ∀ entry ∈ upperExpansions,
    SameParts (Char.ofNat entry.1) (entry.2.map Char.ofNat) ∨
      (folded [Char.ofNat entry.1]).length < (folded (entry.2.map Char.ofNat)).length
  images : ∀ span ∈ upperSpans, span.HasImages
  /-- A span has cased characters only, each of which is the lower case of its capital, a stray or a sigma, or
  each of its characters has the parts of its capital or a shorter key. -/
  spans : ∀ span ∈ upperSpans,
    (AmongCased span.first span.last ∧ AmongCased span.images.first span.images.last ∧
      ∀ code ∈ span.codes, lowerChar (span.image code) = lowerChar (Char.ofNat code) ∨
        isStray (Char.ofNat code) = true ∨ Char.ofNat code ∈ [smallSigma, finalSigma]) ∨
    ∀ code ∈ span.codes, SameParts (Char.ofNat code) [span.image code] ∨
      (folded [Char.ofNat code]).length < (folded [span.image code]).length

theorem raiseTables : RaiseTables where
  sigmas := by decide +kernel
  loweredSigma := by decide +kernel
  sigmaImages := by decide +kernel
  strays := by decide +kernel
  strayImages := by decide +kernel
  strayParts := by decide +kernel
  strayLetters := by decide +kernel
  strayZero := by decide +kernel
  expansions := by decide +kernel
  images := by decide +kernel
  spans := by decide +kernel

theorem AmongCased.nearest {first last : Nat} {c : Char} (h : AmongCased first last)
    (hfirst : first ≤ c.toNat) (hlast : c.toNat ≤ last) : nearest [c] = some true := by
  rcases h with ⟨⟨range, hrange, hhigh⟩, hignorable⟩
  have hignore : isCaseIgnorable c = false := by
    rw [← isSome_find?_caseIgnorableTree,
      SearchTree.find?_eq_none_of_misses hignorable hfirst hlast]
    rfl
  have hcased : isCased c = true := by
    rw [find?_casedTree] at hrange
    have hcovers := List.find?_some hrange
    have hlow := (Interval.covers_iff.mp hcovers).left
    exact covered_iff.mpr ⟨range, List.mem_of_find?_eq_some hrange, by omega, by omega⟩
  rw [nearest_cons, hignore, hcased]
  rfl

theorem not_sigma_of_mem_lowerChar {c d : Char} (hc : c ∉ sigmas)
    (hd : d ∈ lowerChar c) : d ∉ [smallSigma, finalSigma] := by
  intro hsigma
  rcases lowerChar_eq_self_or c with hself | hdotted | ⟨span, hspan, hcode, himage⟩
  · rw [hself, List.mem_singleton] at hd
    subst hd
    exact hc (List.mem_cons_of_mem _ hsigma)
  · have hparts : ∀ e ∈ lowerChar capitalDottedI, e ∉ [smallSigma, finalSigma] := by
      decide +kernel
    exact hparts d (hdotted ▸ hd) hsigma
  · rw [himage, List.mem_singleton] at hd
    have hbounds := CaseSpan.le_of_mem_codes hcode
    have himages := CaseSpan.toNat_image (CapitalTables.images capitalTables span hspan) hcode
    rw [← hd] at himages
    have hforms : d.toNat = 0x3C3 ∨ d.toNat = 0x3C2 := by
      rcases List.mem_pair.mp hsigma with rfl | rfl
      · exact Or.inl (by decide)
      · exact Or.inr (by decide)
    rcases RaiseTables.sigmaImages raiseTables span hspan with hbelow | habove | ⟨hfirst, hshift⟩
    · omega
    · omega
    · -- the code point that becomes the final sigma lies in front of the span
      have hcapital : c.toNat = capitalSigma.toNat := by
        have hvalue : capitalSigma.toNat = 0x3A3 := by decide
        omega
      rw [Char.toNat_inj.mp hcapital] at hc
      exact hc List.mem_cons_self

theorem sameParts_of_lowerChar_eq {c d : Char} (hc : c ∉ sigmas)
    (h : lowerChar d = lowerChar c) (hnearest : nearest [d] = nearest [c]) : SameParts c [d] where
  sigma := by
    intro hmem
    rw [← List.mem_singleton.mp hmem, RaiseTables.loweredSigma raiseTables] at h
    have hsmall : smallSigma ∈ lowerChar c := by
      rw [← h]
      exact List.mem_singleton_self _
    exact not_sigma_of_mem_lowerChar hc hsmall List.mem_cons_self
  parts := by rw [List.flatMap_singleton, h]
  near := hnearest
  back := hnearest

/-- A character has the parts of its capital, or a shorter key, or it is a stray. -/
theorem upperChar_cases {c : Char} (hc : c ∉ sigmas) :
    SameParts c (upperChar c) ∨ (folded [c]).length < (folded (upperChar c)).length ∨
      isStray c = true := by
  rw [upperChar]
  cases hfind : upperExpansions.find? fun entry => entry.1 == c.toNat with
  | some entry =>
      have hentry := RaiseTables.expansions raiseTables entry (List.mem_of_find?_eq_some hfind)
      have hcode := List.find?_some hfind
      rw [beq_iff_eq] at hcode
      rw [hcode, Char.ofNat_toNat] at hentry
      rcases hentry with hparts | hlonger
      · exact Or.inl hparts
      · exact Or.inr (Or.inl hlonger)
  | none =>
      simp only []
      rcases shiftCase_eq_self_or (find?_upperTree c.toNat) with hself | ⟨span, hspan, hcode, himage⟩
      · rw [hself]
        exact Or.inl (sameParts_of_lowerChar_eq hc rfl rfl)
      · rw [himage]
        rcases RaiseTables.spans raiseTables span hspan with ⟨hsmall, hcapitals, hcodes⟩ | hcodes
        · have hbounds := CaseSpan.le_of_mem_codes hcode
          have himages :=
            (CaseSpan.toNat_image (RaiseTables.images raiseTables span hspan) hcode).right
          have hnearest : nearest [span.image c.toNat] = nearest [c] := by
            rw [hcapitals.nearest himages.left himages.right,
              hsmall.nearest hbounds.left hbounds.right]
          have hlower := hcodes c.toNat hcode
          rw [Char.ofNat_toNat] at hlower
          rcases hlower with hlower | hstray | hsigma
          · exact Or.inl (sameParts_of_lowerChar_eq hc hlower hnearest)
          · exact Or.inr (Or.inr hstray)
          · exact absurd (List.mem_cons_of_mem _ hsigma) hc
        · have hlower := hcodes c.toNat hcode
          rw [Char.ofNat_toNat] at hlower
          rcases hlower with hparts | hlonger
          · exact Or.inl hparts
          · exact Or.inr (Or.inl hlonger)

theorem astray_of_isStray {c : Char} (h : isStray c = true) : Astray c :=
  forall_covered (RaiseTables.strays raiseTables) h

theorem isStray_of_mem_ofChar {c d : Char} (hd : d ∈ Decomposition.ofChar c)
    (h : isStray d = true) : isStray c = true := by
  rw [Decomposition.ofChar] at hd
  split at hd
  · rename_i hsyllable
    have hindex : c.toNat - 0xAC00 < Decomposition.syllableCount := by omega
    have hletter := Decomposition.covered_syllableLetters hindex d hd
    rcases covered_iff.mp hletter with ⟨range, hrange, hfirst, hlast⟩
    have hclear := RaiseTables.strayLetters raiseTables range hrange
    rw [isStray, covered_of_clear hclear hfirst hlast] at h
    cases h
  · split at hd
    · rename_i parts hparts
      rcases Decomposition.exists_run_of_listed hparts with ⟨run, hrun, hentry⟩
      rcases List.mk_mem_zipIdx_iff_le_and_getElem?_sub.mp hentry with ⟨hfirst, hget⟩
      rcases RaiseTables.strayParts raiseTables run hrun with ⟨hcode, hlength⟩ | hclear
      · have hindex := (List.getElem?_eq_some_iff.mp hget).choose
        have hrange : (⟨0x1E9B, 0x1E9B⟩ : Interval) ∈ strays := by
          decide
        have hlow : 0x1E9B ≤ c.toNat := by omega
        have hhigh : c.toNat ≤ 0x1E9B := by omega
        exact covered_iff.mpr ⟨_, hrange, hlow, hhigh⟩
      · rcases List.mem_map.mp hd with ⟨part, hpart, rfl⟩
        have hclearPart := hclear parts (List.mem_of_getElem? hget) part hpart
        rw [isStray, covered_ofNat_of_clear (RaiseTables.strayZero raiseTables) hclearPart
          (Nat.le_refl part) (Nat.le_refl part)] at h
        cases h
    · rw [← List.mem_singleton.mp hd]
      exact h

theorem not_isStray_of_mem_ofChar {c d e : Char} (hupper : upperChar c = [c])
    (hd : d ∈ lowerChar c) (he : e ∈ Decomposition.ofChar d) : isStray e = false := by
  cases hstray : isStray e with
  | false => rfl
  | true =>
      have hsmall := isStray_of_mem_ofChar he hstray
      rcases lowerChar_eq_self_or c with hself | hdotted | ⟨span, hspan, hcode, himage⟩
      · rw [hself, List.mem_singleton] at hd
        subst hd
        exact absurd hupper (astray_of_isStray hsmall).raised
      · have hparts : ∀ part ∈ lowerChar capitalDottedI, isStray part = false := by
          decide +kernel
        rw [hparts d (hdotted ▸ hd)] at hsmall
        cases hsmall
      · rw [himage, List.mem_singleton] at hd
        have himages :=
          (CaseSpan.toNat_image (CapitalTables.images capitalTables span hspan) hcode).right
        rw [← hd] at himages
        rw [isStray, covered_of_clear (RaiseTables.strayImages raiseTables span hspan) himages.left
          himages.right] at hsmall
        cases hsmall

end Unicode
end Polyquery
