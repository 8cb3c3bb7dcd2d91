import Polyquery.Proofs.Text.LowerCase
import Polyquery.Proofs.Text.Trimming
import Polyquery.Text.Fold
import Polyquery.Unicode.Blank

/-!
# Classes of characters that folding keeps

Folding takes characters apart, drops marks and replaces capitals.  Most classes are not affected by that:
a class that has no letters and no marks, and that no decomposition enters or leaves, occurs in a text if
and only if it occurs in the search key of the text.  Whether a class given by intervals is of this kind can
be read off the tables.
-/

namespace Polyquery
namespace Unicode

open Text

variable {ranges : List Interval}

/-- What the tables must say of a class so that folding neither adds characters of the class to a text nor
takes the last one away. -/
structure KeptByFolding (ranges : List Interval) : Prop where
  zero : Clear ranges 0 0
  dottedI : Clear ranges 0x130 0x130
  finalSigma : Clear ranges 0x3C2 0x3C2
  diacritics : Clear ranges 0x300 0x36F
  hangulLetters : Clear ranges 0x1100 0x11C2
  hangulSyllables : Clear ranges 0xAC00 0xD7A3
  capitals : ∀ span ∈ lowerSpans, Clear ranges span.first span.last
  smallLetters : ∀ span ∈ lowerSpans,
    Clear ranges (Int.toNat (span.first + span.shift)) (Int.toNat (span.last + span.shift))
  decompositions : ∀ run ∈ Decomposition.runs, ∀ entry ∈ run.parts.zipIdx run.first,
    (entry.1.map Char.ofNat).any (covered ranges) = ranges.any fun range => range.covers entry.2

theorem KeptByFolding.lowering (h : KeptByFolding ranges) : KeptByLowering ranges where
  zero := h.zero
  dottedI := h.dottedI
  finalSigma := h.finalSigma
  combiningDot := by
    intro range hrange
    rcases h.diacritics range hrange with hbelow | habove
    · omega
    · omega
  capitals := h.capitals
  smallLetters := h.smallLetters

theorem keptByFolding_blanks : KeptByFolding blanks where
  zero := by decide
  dottedI := by decide
  finalSigma := by decide
  diacritics := by decide
  hangulLetters := by decide
  hangulSyllables := by decide
  capitals := by decide +kernel
  smallLetters := by decide +kernel
  decompositions := by decide +kernel

def negations : List Interval := [⟨0x21, 0x21⟩]

theorem keptByFolding_negations : KeptByFolding negations where
  zero := by decide
  dottedI := by decide
  finalSigma := by decide
  diacritics := by decide
  hangulLetters := by decide
  hangulSyllables := by decide
  capitals := by decide +kernel
  smallLetters := by decide +kernel
  decompositions := by decide +kernel

/-!
# Decomposition
-/

namespace Decomposition

theorem toNat_of_mem_syllableLetters {index : Nat} (hindex : index < syllableCount) {c : Char}
    (hc : c ∈ syllableLetters index) : 0x1100 ≤ c.toNat ∧ c.toNat ≤ 0x11C2 := by
  rw [syllableCount] at hindex
  have hletter : ∀ code, 0x1100 ≤ code → code ≤ 0x11C2 → (Char.ofNat code).toNat = code := by
    intro code hfirst hlast
    rw [Char.ofNat, dif_pos (Or.inl (by omega))]
    rfl
  have hopening := hletter (0x1100 + index / 588) (by omega) (by omega)
  have hvowel := hletter (0x1161 + index % 588 / 28) (by omega) (by omega)
  have hclosing := hletter (0x11A7 + index % 28) (by omega) (by omega)
  have hmem : c = Char.ofNat (0x1100 + index / 588) ∨ c = Char.ofNat (0x1161 + index % 588 / 28) ∨
      c = Char.ofNat (0x11A7 + index % 28) := by
    rw [syllableLetters] at hc
    split at hc
    · rcases List.mem_pair.mp hc with rfl | rfl
      · exact Or.inl rfl
      · exact Or.inr (Or.inl rfl)
    · simpa using hc
  rcases hmem with rfl | rfl | rfl
  · omega
  · omega
  · omega

theorem avoids_syllableLetters (h : KeptByFolding ranges) {index : Nat}
    (hindex : index < syllableCount) : Avoids (covered ranges) (syllableLetters index) := by
  intro c hc
  have hcode := toNat_of_mem_syllableLetters hindex hc
  exact covered_of_clear h.hangulLetters hcode.left hcode.right

theorem exists_run_of_listed {code : Nat} {parts : List Nat} (h : listed? code = some parts) :
    ∃ run ∈ runs, (parts, code) ∈ run.parts.zipIdx run.first := by
  unfold listed? at h
  rw [find?_runTree] at h
  split at h
  · rename_i run hfind
    have hcovers := List.find?_some hfind
    have hfirst : run.first ≤ code := (Interval.covers_iff.mp hcovers).left
    refine ⟨run, List.mem_of_find?_eq_some hfind, ?_⟩
    exact List.mk_mem_zipIdx_iff_le_and_getElem?_sub.mpr ⟨hfirst, h⟩
  · cases h

theorem avoids_iff_any {p : Char → Bool} {text : Text} : Avoids p text ↔ text.any p = false := by
  simp [Avoids]

theorem avoids_ofChar (h : KeptByFolding ranges) (c : Char) :
    Avoids (covered ranges) (ofChar c) ↔ covered ranges c = false := by
  rw [ofChar]
  split
  · rename_i hsyllable
    rw [syllableCount] at hsyllable
    have hletters : Avoids (covered ranges) (syllableLetters (c.toNat - 0xAC00)) :=
      avoids_syllableLetters h (by rw [syllableCount]; omega)
    have hc : covered ranges c = false :=
      covered_of_clear h.hangulSyllables hsyllable.left (by omega)
    exact iff_of_true hletters hc
  · split
    · rename_i parts hparts
      rcases exists_run_of_listed hparts with ⟨run, hrun, hentry⟩
      rw [avoids_iff_any, h.decompositions run hrun (parts, c.toNat) hentry]
      rfl
    · rw [avoids_cons]
      exact and_iff_left avoids_nil

/-!
# The order of marks
-/

theorem perm_settle (c : Char) (text : Text) : (settle c text).Perm (c :: text) := by
  induction text with
  | nil => exact List.Perm.refl [c]
  | cons d rest ih =>
      rw [settle]
      split
      · exact (ih.cons d).trans (List.Perm.swap c d rest)
      · exact List.Perm.refl (c :: d :: rest)

theorem perm_ordered (text : Text) : (ordered text).Perm text := by
  induction text with
  | nil => exact List.Perm.refl []
  | cons c rest ih => exact (perm_settle c (ordered rest)).trans (ih.cons c)

end Decomposition

end Unicode

/-!
# Search keys
-/

namespace Text

open Unicode

variable {ranges : List Interval}

theorem avoids_flatMap {p : Char → Bool} {f : Char → Text}
    (hf : ∀ c, Avoids p (f c) ↔ p c = false) (text : Text) :
    Avoids p (text.flatMap f) ↔ Avoids p text := by
  induction text with
  | nil => exact Iff.rfl
  | cons c rest ih => rw [List.flatMap_cons, avoids_append, avoids_cons, hf, ih]

theorem avoids_decomposed (h : KeptByFolding ranges) (text : Text) :
    Avoids (covered ranges) (decomposed text) ↔ Avoids (covered ranges) text := by
  rw [← avoids_flatMap (Decomposition.avoids_ofChar h) text]
  constructor
  · intro hall c hc
    exact hall c ((Decomposition.perm_ordered _).mem_iff.mpr hc)
  · intro hall c hc
    exact hall c ((Decomposition.perm_ordered _).mem_iff.mp hc)

theorem covered_of_isDiacritic (h : KeptByFolding ranges) {c : Char}
    (hc : isDiacritic c = true) : covered ranges c = false := by
  simp only [isDiacritic, Bool.and_eq_true, decide_eq_true_eq] at hc
  exact covered_of_clear h.diacritics hc.left hc.right

/-- A class of this kind has a character in a text if and only if it has one in the search key. -/
theorem avoids_folded (h : KeptByFolding ranges) (text : Text) :
    Avoids (covered ranges) (folded text) ↔ Avoids (covered ranges) text := by
  rw [folded, lower, avoids_lowerAfter h.lowering, ← avoids_decomposed h text]
  constructor
  · intro hall c hc
    cases hmark : isDiacritic c with
    | true => exact covered_of_isDiacritic h hmark
    | false =>
        apply hall c
        rw [List.mem_filter, hmark]
        exact ⟨hc, rfl⟩
  · intro hall c hc
    exact hall c (List.mem_of_mem_filter hc)

theorem ofChar_lowerChar_blanks : ∀ range ∈ blanks,
    ∀ code ∈ List.range' range.first (range.last + 1 - range.first),
      (Decomposition.ofChar (Char.ofNat code)).all isBlank = true ∧
        lowerChar (Char.ofNat code) = [Char.ofNat code] := by
  decide +kernel

theorem ofChar_lowerChar_of_isBlank {c : Char} (h : isBlank c = true) :
    (∀ d ∈ Decomposition.ofChar c, isBlank d = true) ∧ lowerChar c = [c] := by
  have hblank := forall_covered
    (p := fun c => (Decomposition.ofChar c).all isBlank = true ∧ lowerChar c = [c])
    ofChar_lowerChar_blanks h
  rw [List.all_eq_true] at hblank
  exact hblank

theorem isBlankText_folded {text : Text} (h : isBlankText text = true) :
    isBlankText (folded text) = true := by
  have hdecomposed : ∀ c ∈ text.decomposed, isBlank c = true := by
    intro c hc
    have hmem := (Decomposition.perm_ordered _).mem_iff.mp hc
    rcases List.mem_flatMap.mp hmem with ⟨d, hd, hpart⟩
    exact (ofChar_lowerChar_of_isBlank (isBlankText_iff.mp h d hd)).left c hpart
  have hkept : ∀ c ∈ text.decomposed.filter (fun c => !isDiacritic c), isBlank c = true := by
    intro c hc
    exact hdecomposed c (List.mem_of_mem_filter hc)
  have hlower : folded text = text.decomposed.filter fun c => !isDiacritic c :=
    lowerAfter_eq_self fun c hc => (ofChar_lowerChar_of_isBlank (hkept c hc)).right
  rw [hlower]
  exact isBlankText_iff.mpr hkept

theorem not_isBlankText_of_folded_eq {left right : Text} (h : folded left = folded right)
    (hleft : left ≠ [])
    (hright : isBlankText (folded right) = true → folded right = []) :
    isBlankText left = false := by
  cases hblank : isBlankText left with
  | false => rfl
  | true =>
      have hkey := isBlankText_folded hblank
      rw [h] at hkey
      have hnil : Avoids isBlank (folded left) := by
        rw [h, hright hkey]
        exact avoids_nil
      have havoids := (avoids_folded keptByFolding_blanks left).mp hnil
      exact absurd (eq_nil_of_isBlankText havoids hblank) hleft

theorem avoids_negations {text : Text} : Avoids (covered negations) text ↔ '!' ∉ text := by
  have hcovered : ∀ c, covered negations c = true ↔ c = '!' := by
    intro c
    rw [covered_iff]
    constructor
    · rintro ⟨range, hrange, hlow, hhigh⟩
      rw [negations, List.mem_singleton] at hrange
      subst hrange
      apply Char.toNat_inj.mp
      exact Nat.le_antisymm hhigh hlow
    · rintro rfl
      exact ⟨⟨0x21, 0x21⟩, List.mem_singleton_self _, by decide, by decide⟩
  constructor
  · intro hall hmem
    have hmark := hall '!' hmem
    rw [(hcovered '!').mpr rfl] at hmark
    exact absurd hmark.symm Bool.false_ne_true
  · intro hmem c hc
    cases hmark : covered negations c with
    | false => rfl
    | true =>
        rw [(hcovered c).mp hmark] at hc
        exact absurd hc hmem

theorem not_mem_negation_of_folded_eq {left right : Text} (h : folded left = folded right)
    (hright : '!' ∉ right) : '!' ∉ left := by
  rw [← avoids_negations, ← avoids_folded keptByFolding_negations] at hright ⊢
  rw [h]
  exact hright

end Text
end Polyquery
