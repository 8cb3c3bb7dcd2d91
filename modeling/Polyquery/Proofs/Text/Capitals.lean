import Polyquery.Proofs.Text.Context

/-!
# Capitals and their parts

The parts of a small letter are the parts of its capital in lower case.  No part of a character changes what a
sigma beside the character looks like, and neither a capital nor its small letter is a mark.  All this is read
off the tables; it decides how lower case goes together with taking a text apart.
-/

namespace Polyquery
namespace Unicode

open Text

/-!
# Characters without case
-/

/-- Intervals of ideographs and of Hangul, which have no case and are not looked through. -/
def caselessRanges : List Interval := [
  ⟨0x1100, 0x11C2⟩, ⟨0x3400, 0x9FFF⟩, ⟨0xAC00, 0xD7A3⟩, ⟨0xF900, 0xFAFF⟩, ⟨0x20000, 0x2FFFF⟩]

theorem misses_caseless : ∀ range ∈ caselessRanges,
    casedTree.misses id range.first range.last = true ∧
      caseIgnorableTree.misses id range.first range.last = true ∧
      lowerTree.misses CaseSpan.interval range.first range.last = true := by
  decide +kernel

theorem nearest_of_caseless {c : Char} (h : covered caselessRanges c = true) (rest : Text) :
    nearest (c :: rest) = some false := by
  rcases covered_iff.mp h with ⟨range, hrange, hfirst, hlast⟩
  rcases misses_caseless range hrange with ⟨hcased, hignorable, _⟩
  rw [nearest, List.dropWhile_cons, SearchTree.find?_eq_none_of_misses hignorable hfirst hlast]
  simp only [Option.isSome_none, Bool.false_eq_true, if_false, List.head?_cons, Option.map_some,
    SearchTree.find?_eq_none_of_misses hcased hfirst hlast]

theorem lowerChar_of_caseless {c : Char} (h : covered caselessRanges c = true) :
    lowerChar c = [c] := by
  have hdotted : c ≠ capitalDottedI := by
    rintro rfl
    exact absurd h (by decide)
  rcases covered_iff.mp h with ⟨range, hrange, hfirst, hlast⟩
  rcases misses_caseless range hrange with ⟨_, _, hlower⟩
  rw [lowerChar, if_neg hdotted, shiftCase, SearchTree.find?_eq_none_of_misses hlower hfirst hlast]

/-!
# Small letters
-/

/-- Only the characters of a text are tried, not all there are. -/
instance (priority := 2000) decidableForallMem (p : Char → Prop) [DecidablePred p] (text : Text) :
    Decidable (∀ c ∈ text, p c) :=
  List.decidableBAll p text

def sigmas : List Char := [capitalSigma, smallSigma, finalSigma]

theorem ne_capitalSigma_of_not_mem {c : Char} (hc : c ∉ sigmas) : c ≠ capitalSigma := by
  rintro rfl
  exact hc List.mem_cons_self

def CaseSpan.images (span : CaseSpan) : Interval :=
  { first := Int.toNat (span.first + span.shift), last := Int.toNat (span.last + span.shift) }

def CaseSpan.HasImages (span : CaseSpan) : Prop :=
  span.images.last < 0xD800 ∨ 0xDFFF < span.images.first ∧ span.images.last < 0x110000

instance (span : CaseSpan) : Decidable span.HasImages :=
  inferInstanceAs (Decidable (_ ∨ _))

theorem CaseSpan.toNat_image {span : CaseSpan} {code : Nat} (hspan : span.HasImages)
    (h : code ∈ span.codes) :
    (span.image code).toNat = Int.toNat (code + span.shift) ∧
      span.images.first ≤ (span.image code).toNat ∧ (span.image code).toNat ≤ span.images.last := by
  have hbounds := le_of_mem_codes h
  simp only [HasImages, images] at hspan ⊢
  have hvalid : (Int.toNat (code + span.shift)).isValidChar := by
    rcases hspan with hbelow | habove
    · exact Or.inl (by omega)
    · exact Or.inr ⟨by omega, by omega⟩
  have hcode : (span.image code).toNat = Int.toNat (code + span.shift) := by
    rw [image, Char.ofNat, dif_pos hvalid]
    rfl
  omega

/-- What the tables say of capitals and small letters. -/
structure CapitalTables : Prop where
  sigmas : ∀ sigma ∈ sigmas,
    combiningClass sigma = 0 ∧ isDiacritic sigma = false ∧ Decomposition.ofChar sigma = [sigma]
  dottedI : combiningClass capitalDottedI = 0 ∧ combiningClass 'i' = 0 ∧
    (lowerChar capitalDottedI).flatMap Decomposition.ofChar =
      (Decomposition.ofChar capitalDottedI).flatMap lowerChar
  images : ∀ span ∈ lowerSpans, span.HasImages
  syllables : ∀ span ∈ lowerSpans,
    (span.last < 0xAC00 ∨ 0xD7A3 < span.first) ∧
      (span.images.last < 0xAC00 ∨ 0xD7A3 < span.images.first)
  classes : ∀ span ∈ lowerSpans,
    combiningClassTree.misses Prod.fst span.first span.last = true ∧
      combiningClassTree.misses Prod.fst span.images.first span.images.last = true
  diacritics : ∀ span ∈ lowerSpans,
    (span.last < 0x300 ∨ 0x36F < span.first) ∧
      (span.images.last < 0x300 ∨ 0x36F < span.images.first)
  /-- A span has letters only that are not taken apart, nor are their images, or its letters are taken apart
  like their images. -/
  parts : ∀ span ∈ lowerSpans,
    (Decomposition.runTree.misses Decomposition.Run.interval span.first span.last = true ∧
      Decomposition.runTree.misses Decomposition.Run.interval span.images.first
        span.images.last = true) ∨
    ∀ code ∈ span.codes, Decomposition.ofChar (span.image code) =
      (Decomposition.ofChar (Char.ofNat code)).flatMap lowerChar

theorem capitalTables : CapitalTables where
  sigmas := by decide +kernel
  dottedI := by decide +kernel
  images := by decide +kernel
  syllables := by decide +kernel
  classes := by decide +kernel
  diacritics := by decide +kernel
  parts := by decide +kernel

theorem combiningClass_of_misses {first last : Nat} {c : Char}
    (h : combiningClassTree.misses Prod.fst first last = true) (hfirst : first ≤ c.toNat)
    (hlast : c.toNat ≤ last) : combiningClass c = 0 := by
  unfold combiningClass
  rw [SearchTree.find?_eq_none_of_misses h hfirst hlast]

theorem combiningClass_of_mem_codes {span : CaseSpan} {c : Char} (hspan : span ∈ lowerSpans)
    (hcode : c.toNat ∈ span.codes) :
    combiningClass c = 0 ∧ combiningClass (span.image c.toNat) = 0 := by
  rcases CapitalTables.classes capitalTables span hspan with ⟨hcapital, hsmall⟩
  have hbounds := CaseSpan.le_of_mem_codes hcode
  have himage := CaseSpan.toNat_image (CapitalTables.images capitalTables span hspan) hcode
  exact ⟨combiningClass_of_misses hcapital hbounds.left hbounds.right,
    combiningClass_of_misses hsmall himage.right.left himage.right.right⟩

theorem isDiacritic_of_mem_codes {span : CaseSpan} {c : Char} (hspan : span ∈ lowerSpans)
    (hcode : c.toNat ∈ span.codes) :
    isDiacritic c = false ∧ isDiacritic (span.image c.toNat) = false := by
  rcases CapitalTables.diacritics capitalTables span hspan with ⟨hcapital, hsmall⟩
  have hbounds := CaseSpan.le_of_mem_codes hcode
  have himage := CaseSpan.toNat_image (CapitalTables.images capitalTables span hspan) hcode
  simp only [isDiacritic, Bool.and_eq_false_iff, decide_eq_false_iff_not]
  constructor
  · omega
  · omega

/-- Between its neighbours, a character becomes one of the same combining class, and a diacritic exactly if it
is one. -/
theorem exists_lowerBetween {c : Char} (hdotted : c ≠ capitalDottedI) (before rest : Text) :
    ∃ d, lowerBetween before c rest = [d] ∧ combiningClass d = combiningClass c ∧
      isDiacritic d = isDiacritic c := by
  rw [lowerBetween]
  split
  · rename_i hsigma
    have hcapital := CapitalTables.sigmas capitalTables capitalSigma (by decide)
    have hsmall := CapitalTables.sigmas capitalTables smallSigma (by decide)
    have hfinal := CapitalTables.sigmas capitalTables finalSigma (by decide)
    rw [hsigma, hcapital.left, hcapital.right.left]
    split
    · exact ⟨finalSigma, rfl, hfinal.left, hfinal.right.left⟩
    · exact ⟨smallSigma, rfl, hsmall.left, hsmall.right.left⟩
  · rcases lowerChar_eq_self_or c with hself | hdot | ⟨span, hspan, hcode, himage⟩
    · exact ⟨c, hself, rfl, rfl⟩
    · exact absurd hdot hdotted
    · rcases combiningClass_of_mem_codes hspan hcode with ⟨hclass, hclassImage⟩
      rcases isDiacritic_of_mem_codes hspan hcode with ⟨hmark, hmarkImage⟩
      exact ⟨_, himage, hclassImage.trans hclass.symm, hmarkImage.trans hmark.symm⟩

theorem exists_cons_lowerBetween (before : Text) (c : Char) (rest : Text) :
    ∃ d tail, lowerBetween before c rest = d :: tail ∧ combiningClass d = combiningClass c := by
  by_cases hdotted : c = capitalDottedI
  · rcases CapitalTables.dottedI capitalTables with ⟨hcapital, hsmall, _⟩
    have hsigma : capitalDottedI ≠ capitalSigma := by decide
    refine ⟨'i', [Char.ofNat 0x307], ?_, ?_⟩
    · rw [hdotted, lowerBetween, if_neg hsigma, lowerChar, if_pos rfl]
    · rw [hdotted, hcapital, hsmall]
  · rcases exists_lowerBetween hdotted before rest with ⟨d, hd, hclass, _⟩
    exact ⟨d, [], hd, hclass⟩

theorem lowerBetween_of_combiningClass_pos {c : Char} (h : 0 < combiningClass c)
    (before rest : Text) : lowerBetween before c rest = [c] := by
  have hsigma : c ≠ capitalSigma := by
    rintro rfl
    rw [(CapitalTables.sigmas capitalTables capitalSigma (by decide)).left] at h
    exact absurd h (Nat.lt_irrefl 0)
  rw [lowerBetween, if_neg hsigma]
  rcases lowerChar_eq_self_or c with hself | hdotted | ⟨span, hspan, hcode, _⟩
  · exact hself
  · rw [hdotted, (CapitalTables.dottedI capitalTables).left] at h
    exact absurd h (Nat.lt_irrefl 0)
  · rw [(combiningClass_of_mem_codes hspan hcode).left] at h
    exact absurd h (Nat.lt_irrefl 0)

/-!
# Parts
-/

namespace Decomposition

structure PartTables : Prop where
  /-- A run has characters and parts without case only, or its parts look to a sigma like the character, from
  both sides, they have no case if the character has none, and none of them is a sigma or the dotted capital. -/
  runs : ∀ run ∈ runs,
    ((∃ range ∈ caselessRanges, range.first ≤ run.interval.first ∧
        run.interval.last ≤ range.last) ∧
      ∀ parts ∈ run.parts, parts ≠ [] ∧
        ∀ part ∈ parts, covered caselessRanges (Char.ofNat part) = true) ∨
    ∀ entry ∈ run.parts.zipIdx run.first,
      nearest (entry.1.map Char.ofNat) = nearest [Char.ofNat entry.2] ∧
      nearest (entry.1.map Char.ofNat).reverse = nearest [Char.ofNat entry.2] ∧
      (lowerChar (Char.ofNat entry.2) ≠ [Char.ofNat entry.2] ∨
        ∀ part ∈ entry.1, lowerChar (Char.ofNat part) = [Char.ofNat part]) ∧
      ∀ part ∈ entry.1,
        Char.ofNat part ∉ capitalDottedI :: sigmas
  dottedI : (listed? capitalDottedI.toNat).isSome = true

theorem partTables : PartTables where
  runs := by decide +kernel
  dottedI := by decide +kernel

inductive Taken (c : Char) : Text → Prop where
  | whole (h : listed? c.toNat = none) : Taken c [c]
  | caseless {parts : Text} (h : covered caselessRanges c = true) (hne : parts ≠ [])
      (hparts : ∀ d ∈ parts, covered caselessRanges d = true) : Taken c parts
  | listed {parts : List Nat}
      (hnearest : nearest (parts.map Char.ofNat) = nearest [c])
      (hback : nearest (parts.map Char.ofNat).reverse = nearest [c])
      (hcase : lowerChar c = [c] → ∀ d ∈ parts.map Char.ofNat, lowerChar d = [d])
      (hspecial : ∀ d ∈ parts.map Char.ofNat,
        d ∉ capitalDottedI :: sigmas) : Taken c (parts.map Char.ofNat)

theorem covered_syllableLetters {index : Nat} (hindex : index < syllableCount) :
    ∀ d ∈ syllableLetters index, covered caselessRanges d = true := by
  intro d hd
  have hrange : (⟨0x1100, 0x11C2⟩ : Interval) ∈ caselessRanges := List.mem_cons_self
  exact covered_iff.mpr ⟨_, hrange, toNat_of_mem_syllableLetters hindex hd⟩

theorem taken_ofChar (c : Char) : Taken c (ofChar c) := by
  rw [ofChar]
  split
  · rename_i hsyllable
    rw [syllableCount] at hsyllable
    have hindex : c.toNat - 0xAC00 < syllableCount := by
      rw [syllableCount]
      omega
    have hrange : (⟨0xAC00, 0xD7A3⟩ : Interval) ∈ caselessRanges := by
      decide
    have hlast : c.toNat ≤ 0xD7A3 := by omega
    refine .caseless (covered_iff.mpr ⟨_, hrange, hsyllable.left, hlast⟩) ?_
      (covered_syllableLetters hindex)
    rw [syllableLetters]
    split
    · exact List.cons_ne_nil _ _
    · exact List.cons_ne_nil _ _
  · split
    · rename_i parts hparts
      rcases exists_run_of_listed hparts with ⟨run, hrun, hentry⟩
      rcases List.mk_mem_zipIdx_iff_le_and_getElem?_sub.mp hentry with ⟨hfirst, hget⟩
      have hmem := List.mem_of_getElem? hget
      rcases PartTables.runs partTables run hrun with
        ⟨⟨range, hrange, hlow, hhigh⟩, hcaseless⟩ | hentries
      · have hlength := (List.getElem?_eq_some_iff.mp hget).choose
        have hbounds : range.first ≤ c.toNat ∧ c.toNat ≤ range.last := by
          simp only [Run.interval] at hlow hhigh
          omega
        rcases hcaseless parts hmem with ⟨hne, hcovered⟩
        refine .caseless (covered_iff.mpr ⟨range, hrange, hbounds⟩) (by simpa using hne) ?_
        exact List.forall_mem_map.mpr hcovered
      · have hparts := hentries (parts, c.toNat) hentry
        rw [Char.ofNat_toNat] at hparts
        rcases hparts with ⟨hnearest, hback, hcase, hspecials⟩
        refine .listed hnearest hback ?_ (List.forall_mem_map.mpr hspecials)
        intro hself
        exact List.forall_mem_map.mpr (hcase.resolve_left fun hne => hne hself)
    · rename_i hnone
      exact .whole hnone

theorem nearest_of_forall_caseless {text : Text} (hne : text ≠ [])
    (h : ∀ d ∈ text, covered caselessRanges d = true) : nearest text = some false := by
  cases text with
  | nil => exact absurd rfl hne
  | cons d rest => exact nearest_of_caseless (h d List.mem_cons_self) rest

theorem nearest_ofChar (c : Char) :
    nearest (ofChar c) = nearest [c] ∧ nearest (ofChar c).reverse = nearest [c] := by
  have htaken := taken_ofChar c
  generalize ofChar c = parts at htaken
  cases htaken with
  | whole h => exact ⟨rfl, rfl⟩
  | caseless h hne hparts =>
      rw [nearest_of_caseless h]
      refine ⟨nearest_of_forall_caseless hne hparts, nearest_of_forall_caseless ?_ ?_⟩
      · exact mt List.reverse_eq_nil_iff.mp hne
      · intro d hd
        exact hparts d (List.mem_reverse.mp hd)
  | listed hnearest hback hcase hspecial => exact ⟨hnearest, hback⟩

theorem special_of_mem_ofChar {c d : Char} (hd : d ∈ ofChar c) :
    d ≠ capitalDottedI ∧ (d ∈ sigmas → d = c) := by
  have htaken := taken_ofChar c
  generalize ofChar c = parts at hd htaken
  cases htaken with
  | whole h =>
      rw [List.mem_singleton] at hd
      subst hd
      refine ⟨?_, fun _ => rfl⟩
      rintro rfl
      have hlisted := PartTables.dottedI partTables
      rw [h] at hlisted
      cases hlisted
  | caseless h hne hparts =>
      have hcovered := hparts d hd
      have hspecials : ∀ special ∈ capitalDottedI :: sigmas,
          covered caselessRanges special = false := by
        decide
      constructor
      · rintro rfl
        rw [hspecials capitalDottedI List.mem_cons_self] at hcovered
        cases hcovered
      · intro hsigma
        rw [hspecials d (List.mem_cons_of_mem _ hsigma)] at hcovered
        cases hcovered
  | listed hnearest hback hcase hspecial =>
      constructor
      · rintro rfl
        exact hspecial capitalDottedI hd List.mem_cons_self
      · intro hsigma
        exact absurd (List.mem_cons_of_mem _ hsigma) (hspecial d hd)

theorem lowerChar_of_mem_ofChar {c d : Char} (h : lowerChar c = [c]) (hd : d ∈ ofChar c) :
    lowerChar d = [d] := by
  have htaken := taken_ofChar c
  generalize ofChar c = parts at hd htaken
  cases htaken with
  | whole _ =>
      rw [List.mem_singleton.mp hd]
      exact h
  | caseless _ hne hparts => exact lowerChar_of_caseless (hparts d hd)
  | listed hnearest hback hcase hspecial => exact hcase h d hd

theorem ofChar_of_misses {first last : Nat} {c : Char}
    (h : runTree.misses Run.interval first last = true) (hfirst : first ≤ c.toNat)
    (hlast : c.toNat ≤ last) (hsyllable : c.toNat < 0xAC00 ∨ 0xD7A3 < c.toNat) :
    ofChar c = [c] := by
  have hnone : listed? c.toNat = none := by
    unfold listed?
    rw [SearchTree.find?_eq_none_of_misses h hfirst hlast]
  rw [ofChar, if_neg (by rw [syllableCount]; omega), hnone]

/-- The parts of a small letter are the parts of its capital in lower case. -/
theorem flatMap_ofChar_lowerChar (c : Char) :
    (lowerChar c).flatMap ofChar = (ofChar c).flatMap lowerChar := by
  rcases lowerChar_eq_self_or c with hself | hdotted | ⟨span, hspan, hcode, himage⟩
  · have hparts : (ofChar c).flatMap lowerChar = (ofChar c).flatMap fun d => [d] :=
      List.flatMap_congr fun d hd => lowerChar_of_mem_ofChar hself hd
    rw [hself, hparts, List.flatMap_singleton, List.flatMap_singleton']
  · rw [hdotted]
    exact (CapitalTables.dottedI capitalTables).right.right
  · rw [himage, List.flatMap_singleton]
    rcases CapitalTables.parts capitalTables span hspan with ⟨hcapital, hsmall⟩ | hparts
    · have hbounds := CaseSpan.le_of_mem_codes hcode
      have himages :=
        (CaseSpan.toNat_image (CapitalTables.images capitalTables span hspan) hcode).right
      have hsyllables := CapitalTables.syllables capitalTables span hspan
      rw [ofChar_of_misses hcapital hbounds.left hbounds.right (by omega),
        ofChar_of_misses hsmall himages.left himages.right (by omega),
        List.flatMap_singleton, himage]
    · rw [hparts c.toNat hcode, Char.ofNat_toNat]

end Decomposition

end Unicode
end Polyquery
