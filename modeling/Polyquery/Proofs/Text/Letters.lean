import Polyquery.Proofs.Text.Folding
import Polyquery.Query.Operator
import Polyquery.Query.Segment
import Polyquery.Unicode.Letter

/-!
# Letters

Neither an operator nor a mark in front of a term is a letter.  Lower case makes letters out of letters and
of nothing else.  A search key begins with a letter exactly if the text does, unless the text begins with a
diacritic: folding drops it, and what stood behind it comes to the front.
-/

namespace Polyquery

open Text Unicode

namespace Unicode

def letterTree : SearchTree Interval :=
  .ofTable 10 letters

def isLetterCode (code : Nat) : Bool :=
  (letterTree.find? id code).isSome

def AmongLetters (first last : Nat) : Prop :=
  ∃ range ∈ letterTree.find? id first, last ≤ range.last

instance (first last : Nat) : Decidable (AmongLetters first last) :=
  inferInstanceAs (Decidable (∃ range ∈ letterTree.find? id first, last ≤ range.last))

structure LetterTables : Prop where
  size : letters.length < Nat.pow 2 10
  ascending : Ascending id letters
  valid : ∀ range ∈ letters, range.last < 0xD800 ∨ 0xDFFF < range.first ∧ range.last < 0x110000
  signs : Clear letters 0 0x40
  bar : Clear letters 0x7C 0x7C
  diacritics : Clear letters 0x300 0x36F
  combiningMarks : ∀ entry ∈ combiningClasses,
    ∀ code ∈ List.range' entry.1.first (entry.1.last + 1 - entry.1.first),
      isLetterCode code = false
  dottedI : isLetterCode 'i'.toNat = true ∧ isLetterCode capitalDottedI.toNat = true
  sigmas : isLetterCode capitalSigma.toNat = true ∧ isLetterCode smallSigma.toNat = true ∧
    isLetterCode finalSigma.toNat = true
  hangulLetters : AmongLetters 0x1100 0x1112
  hangulSyllables : AmongLetters 0xAC00 0xD7A3
  /-- A case mapping moves an interval of letters into another one, or it keeps letters and other characters
  apart one by one. -/
  images : ∀ span ∈ lowerSpans,
    (AmongLetters span.first span.last ∧
      AmongLetters (Int.toNat (span.first + span.shift)) (Int.toNat (span.last + span.shift))) ∨
    ∀ code ∈ span.codes, isLetterCode (span.image code).toNat = isLetterCode code
  /-- A run has letters only, which are taken apart into a letter and what follows it, or the first part of
  each of its characters is a letter exactly if the character is one, diacritics apart. -/
  heads : ∀ run ∈ Decomposition.runs,
    (AmongLetters run.interval.first run.interval.last ∧
      ∀ parts ∈ run.parts,
        BeginsWith (fun head => isLetterCode head.toNat) (parts.map Char.ofNat)) ∨
    ∀ entry ∈ run.parts.zipIdx run.first, isDiacritic (Char.ofNat entry.2) = true ∨
      BeginsWith (fun head => isLetterCode head.toNat == isLetterCode entry.2 && !isDiacritic head)
        (entry.1.map Char.ofNat)

-- The tables are checked in one place, one after the other.  What follows names the projections: the dot
-- notation would first wait for this proof, which takes seconds.
theorem letterTables : LetterTables where
  size := by decide +kernel
  ascending := by decide +kernel
  valid := by decide +kernel
  signs := by decide +kernel
  bar := by decide +kernel
  diacritics := by decide +kernel
  combiningMarks := by decide +kernel
  dottedI := by decide +kernel
  sigmas := by decide +kernel
  hangulLetters := by decide +kernel
  hangulSyllables := by decide +kernel
  images := by decide +kernel
  heads := by decide +kernel

theorem find?_letterTree (code : Nat) :
    letterTree.find? id code = letters.find? fun range => range.covers code :=
  SearchTree.find?_ofTable (LetterTables.size letterTables) (LetterTables.ascending letterTables)

theorem isLetter_eq_isLetterCode (c : Char) : isLetter c = isLetterCode c.toNat := by
  rw [isLetterCode, find?_letterTree, List.isSome_find?]
  rfl

theorem AmongLetters.exists_range {first last : Nat} (h : AmongLetters first last) :
    ∃ range ∈ letters, range.first ≤ first ∧ last ≤ range.last := by
  rcases h with ⟨range, hrange, hlast⟩
  rw [find?_letterTree] at hrange
  have hcovers := List.find?_some hrange
  exact ⟨range, List.mem_of_find?_eq_some hrange, (Interval.covers_iff.mp hcovers).left, hlast⟩

theorem AmongLetters.isLetter {first last : Nat} {c : Char} (h : AmongLetters first last)
    (hfirst : first ≤ c.toNat) (hlast : c.toNat ≤ last) : isLetter c = true := by
  rcases h.exists_range with ⟨range, hrange, hlow, hhigh⟩
  exact covered_iff.mpr ⟨range, hrange, by omega, by omega⟩

theorem AmongLetters.isLetter_ofNat {first last code : Nat} (h : AmongLetters first last)
    (hfirst : first ≤ code) (hlast : code ≤ last) : Unicode.isLetter (Char.ofNat code) = true := by
  have hvalid : code.isValidChar := by
    rcases h.exists_range with ⟨range, hrange, hlow, hhigh⟩
    rcases LetterTables.valid letterTables range hrange with hbelow | habove
    · exact Or.inl (by omega)
    · exact Or.inr ⟨by omega, by omega⟩
  have hcode : (Char.ofNat code).toNat = code := by
    rw [Char.ofNat, dif_pos hvalid]
    rfl
  exact h.isLetter (by omega) (by omega)

end Unicode

/-!
# Characters that are no letters
-/

theorem isLetter_of_isLeadChar {c : Char} (h : Segment.isLeadChar c = true) :
    isLetter c = false := by
  have hcode : ∀ d : Char, c = d ↔ c.toNat = d.toNat := fun d => Char.toNat_inj.symm
  apply covered_of_clear (LetterTables.signs letterTables) (Nat.zero_le _)
  simp only [Segment.isLeadChar, Bool.or_eq_true, beq_iff_eq, hcode, Char.reduceToNat,
    Char.isDigit_iff_toNat] at h
  omega

theorem isLetter_of_isOperatorChar {c : Char} (h : isOperatorChar c = true) :
    isLetter c = false := by
  rw [isOperatorChar_iff, isSeparator_iff] at h
  have hcode : c.toNat ≤ 0x40 ∨ c.toNat = 0x7C := by
    rcases h with rfl | rfl | rfl | rfl | rfl | rfl
    all_goals decide
  rcases hcode with hlow | hbar
  · exact covered_of_clear (LetterTables.signs letterTables) (Nat.zero_le _) hlow
  · exact covered_of_clear (LetterTables.bar letterTables) (by omega) (by omega)

theorem isLetter_of_isDiacritic {c : Char} (h : isDiacritic c = true) : isLetter c = false := by
  simp only [isDiacritic, Bool.and_eq_true, decide_eq_true_eq] at h
  exact covered_of_clear (LetterTables.diacritics letterTables) h.left h.right

theorem isDiacritic_of_isLetter {c : Char} (h : isLetter c = true) : isDiacritic c = false := by
  cases hmark : isDiacritic c with
  | false => rfl
  | true =>
      rw [isLetter_of_isDiacritic hmark] at h
      cases h

namespace Unicode

/-!
# Letters in lower case
-/

theorem isLetter_shiftCase (c : Char) : isLetter (shiftCase lowerTree c) = isLetter c := by
  rcases shiftCase_eq_self_or (find?_lowerTree c.toNat) with hself | ⟨span, hspan, hcode, himage⟩
  · rw [hself]
  · rw [himage]
    rcases LetterTables.images letterTables span hspan with ⟨hcapitals, hsmall⟩ | hcodes
    · have hbounds := CaseSpan.le_of_mem_codes hcode
      rw [hcapitals.isLetter hbounds.left hbounds.right, CaseSpan.image]
      exact hsmall.isLetter_ofNat (by omega) (by omega)
    · rw [isLetter_eq_isLetterCode, isLetter_eq_isLetterCode]
      exact hcodes c.toNat hcode

theorem beginsWith_lowerBetween {before rest : Text} {c : Char} :
    BeginsWith isLetter (lowerBetween before c rest) ↔ isLetter c = true := by
  rcases LetterTables.sigmas letterTables with ⟨hcapital, hsmall, hfinal⟩
  rcases LetterTables.dottedI letterTables with ⟨hdotted, hcapitalDotted⟩
  simp only [← isLetter_eq_isLetterCode] at hcapital hsmall hfinal hdotted hcapitalDotted
  rw [lowerBetween, lowerChar]
  split
  · rename_i hc
    rw [hc, beginsWith_cons]
    split
    · exact iff_of_true hfinal hcapital
    · exact iff_of_true hsmall hcapital
  · split
    · rename_i hc
      rw [hc, beginsWith_cons]
      exact iff_of_true hdotted hcapitalDotted
    · rw [beginsWith_cons, isLetter_shiftCase]

theorem beginsWith_isLetter_lowerAfter (before : Text) {c : Char} {rest : Text} :
    BeginsWith isLetter (lowerAfter before (c :: rest)) ↔ isLetter c = true := by
  rw [lowerAfter_cons, beginsWith_append (lowerBetween_ne_nil before c rest),
    beginsWith_lowerBetween]

/-!
# Letters in search keys
-/

namespace Decomposition

theorem exists_head_ofChar {c : Char} (hmark : isDiacritic c = false) :
    ∃ head rest, ofChar c = head :: rest ∧ isLetter head = isLetter c ∧
      isDiacritic head = false := by
  rw [ofChar]
  split
  · rename_i hsyllable
    rw [syllableCount] at hsyllable
    have hletter : isLetter c = true :=
      (LetterTables.hangulSyllables letterTables).isLetter hsyllable.left (by omega)
    have hopening : isLetter (Char.ofNat (0x1100 + (c.toNat - 0xAC00) / 588)) = true :=
      (LetterTables.hangulLetters letterTables).isLetter_ofNat (by omega) (by omega)
    rw [hletter, syllableLetters]
    split
    · exact ⟨_, _, rfl, hopening, isDiacritic_of_isLetter hopening⟩
    · exact ⟨_, _, rfl, hopening, isDiacritic_of_isLetter hopening⟩
  · split
    · rename_i parts hparts
      rcases exists_run_of_listed hparts with ⟨run, hrun, hentry⟩
      rcases List.mk_mem_zipIdx_iff_le_and_getElem?_sub.mp hentry with ⟨hfirst, hget⟩
      rcases LetterTables.heads letterTables run hrun with ⟨hamong, hheads⟩ | hheads
      · have hlength := (List.getElem?_eq_some_iff.mp hget).choose
        have hlast : c.toNat ≤ run.interval.last := by
          simp only [Run.interval]
          omega
        rcases hheads parts (List.mem_of_getElem? hget) with ⟨head, hhead, hcode⟩
        have hletter : isLetter head = true := (isLetter_eq_isLetterCode head).trans hcode
        rcases List.head?_eq_some_iff.mp hhead with ⟨rest, hrest⟩
        exact ⟨head, rest, hrest, hletter.trans (hamong.isLetter hfirst hlast).symm,
          isDiacritic_of_isLetter hletter⟩
      · have hhead := hheads (parts, c.toNat) hentry
        rw [Char.ofNat_toNat, hmark] at hhead
        rcases hhead with hfalse | ⟨head, hhead, hclass⟩
        · cases hfalse
        · simp only [Bool.and_eq_true, beq_iff_eq, Bool.not_eq_true',
            ← isLetter_eq_isLetterCode] at hclass
          rcases List.head?_eq_some_iff.mp hhead with ⟨rest, hrest⟩
          exact ⟨head, rest, hrest, hclass⟩
    · exact ⟨c, [], rfl, rfl, hmark⟩

theorem isLetter_of_combiningClass_pos {c : Char} (h : 0 < combiningClass c) :
    isLetter c = false := by
  rcases exists_entry_of_combiningClass_pos h with ⟨entry, hentry, hcode⟩
  rw [isLetter_eq_isLetterCode]
  exact LetterTables.combiningMarks letterTables entry hentry c.toNat hcode

theorem exists_settle_eq (c : Char) (text : Text) :
    ∃ marks rest, settle c text = marks ++ c :: rest ∧
      ∀ d ∈ marks, 0 < combiningClass d ∧ 0 < combiningClass c := by
  induction text with
  | nil => exact ⟨[], [], rfl, by simp⟩
  | cons d text ih =>
      rw [settle]
      split
      · rename_i hclass
        rcases ih with ⟨marks, rest, hsettle, hmarks⟩
        refine ⟨d :: marks, rest, by rw [hsettle, List.cons_append], ?_⟩
        exact List.forall_mem_cons.mpr ⟨⟨hclass.left, by omega⟩, hmarks⟩
      · exact ⟨[], d :: text, rfl, by simp⟩

/-- A mark is moved in front of another mark only, never in front of a letter. -/
theorem exists_filter_settle (c : Char) (text : Text) (hmark : isDiacritic c = false) :
    ∃ first rest, (settle c text).filter (fun d => !isDiacritic d) = first :: rest ∧
      isLetter first = isLetter c := by
  rcases exists_settle_eq c text with ⟨marks, rest, hsettle, hmarks⟩
  have hkept : (c :: rest).filter (fun d => !isDiacritic d) =
      c :: rest.filter fun d => !isDiacritic d :=
    List.filter_cons_of_pos (by rw [hmark]; rfl)
  rw [hsettle, List.filter_append, hkept]
  cases hfirst : marks.filter fun d => !isDiacritic d with
  | nil => exact ⟨c, _, rfl, rfl⟩
  | cons mark kept =>
      have hmem : mark ∈ marks := by
        apply List.mem_of_mem_filter
        rw [hfirst]
        exact List.mem_cons_self
      rcases hmarks mark hmem with ⟨hclass, hsettled⟩
      refine ⟨mark, _, rfl, ?_⟩
      rw [isLetter_of_combiningClass_pos hclass, isLetter_of_combiningClass_pos hsettled]

end Decomposition
end Unicode

namespace Text

/-- The search key of a text begins with a letter exactly if the text does, when no diacritic stands in
front. -/
theorem beginsWith_isLetter_folded {c : Char} {rest : Text} (hmark : isDiacritic c = false) :
    BeginsWith isLetter (folded (c :: rest)) ↔ isLetter c = true := by
  rcases Decomposition.exists_head_ofChar hmark with ⟨head, parts, hparts, hletter, hplain⟩
  have hdecomposed : decomposed (c :: rest) =
      Decomposition.settle head
        (Decomposition.ordered (parts ++ rest.flatMap Decomposition.ofChar)) := by
    rw [decomposed, List.flatMap_cons, hparts, List.cons_append]
    rfl
  rcases Decomposition.exists_filter_settle head
    (Decomposition.ordered (parts ++ rest.flatMap Decomposition.ofChar)) hplain with
    ⟨first, others, hkept, hfirst⟩
  rw [folded, hdecomposed, hkept, lower, beginsWith_isLetter_lowerAfter, hfirst, hletter]

end Text
end Polyquery
