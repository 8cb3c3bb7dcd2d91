import Polyquery.Proofs.Text.LowerKey

/-!
# Keys as normal forms

The parts of a character have no parts of their own, and lower case gives them none.  So taking a search key
apart does no more than to put its marks in order, and neither does folding it once more.

The marks that a key keeps stand in the order in which they stand in the decomposition of the text.  This is the
order of their classes, with one exception.  The grapheme joiner has the class zero, so marks are not moved
past it, and it is dropped as a diacritic.  Two marks around it may stay behind in the wrong order.
-/

namespace Polyquery
namespace Unicode
namespace Decomposition

open Text

/-!
# Characters without parts
-/

/-- The diacritic that is no mark: no mark is moved past it. -/
def graphemeJoiner : Char := Char.ofNat 0x34F

theorem ofChar_parts : ∀ run ∈ runs, ∀ parts ∈ run.parts, ∀ part ∈ parts,
    ofChar (Char.ofNat part) = [Char.ofNat part] ∧ Char.ofNat part ≠ graphemeJoiner := by
  decide +kernel

theorem misses_hangulLetters : runTree.misses Run.interval 0x1100 0x11C2 = true := by
  decide +kernel

theorem ofChar_of_mem_ofChar {c d : Char} (h : d ∈ ofChar c) :
    ofChar d = [d] ∧ (d = graphemeJoiner → c = graphemeJoiner) := by
  rw [ofChar] at h
  split at h
  · rename_i hsyllable
    have hindex : c.toNat - 0xAC00 < syllableCount := by omega
    have hcode := toNat_of_mem_syllableLetters hindex h
    constructor
    · exact ofChar_of_misses misses_hangulLetters hcode.left hcode.right (by omega)
    · rintro rfl
      exact absurd hcode.left (by decide)
  · rename_i hsyllable
    split at h
    · rename_i parts hparts
      rcases exists_run_of_listed hparts with ⟨run, hrun, hentry⟩
      rcases List.mem_map.mp h with ⟨part, hpart, rfl⟩
      have htable := ofChar_parts run hrun parts (List.fst_mem_of_mem_zipIdx hentry) part hpart
      exact ⟨htable.left, fun heq => absurd heq htable.right⟩
    · rename_i hnone
      rw [List.mem_singleton.mp h, ofChar, if_neg hsyllable, hnone]
      exact ⟨rfl, id⟩

/-!
# Marks in order
-/

/-- No mark stands behind one of a larger class. -/
def InOrder (text : Text) : Prop :=
  (text.map combiningClass).IsChain fun left right => right = 0 ∨ left ≤ right

instance (text : Text) : Decidable (InOrder text) :=
  inferInstanceAs (Decidable (List.IsChain _ _))

theorem inOrder_cons {c : Char} {text : Text} :
    InOrder (c :: text) ↔
      (∀ d ∈ text.head?, combiningClass d = 0 ∨ combiningClass c ≤ combiningClass d) ∧
        InOrder text := by
  rw [InOrder, List.map_cons, List.isChain_cons, List.head?_map]
  apply and_congr_left'
  cases text with
  | nil => simp
  | cons d rest => simp

theorem mem_head?_settle {c d : Char} {text : Text} (h : d ∈ (settle c text).head?) :
    d = c ∨ d ∈ text.head? := by
  cases text with
  | nil => exact Or.inl (Option.some.inj h).symm
  | cons e rest =>
      rw [settle] at h
      split at h
      · exact Or.inr h
      · exact Or.inl (Option.some.inj h).symm

theorem inOrder_settle {c : Char} {text : Text} (h : InOrder text) : InOrder (settle c text) := by
  induction text with
  | nil => exact List.isChain_singleton _
  | cons d rest ih =>
      rcases inOrder_cons.mp h with ⟨hhead, hrest⟩
      rw [settle]
      split
      · rename_i hclass
        refine inOrder_cons.mpr ⟨?_, ih hrest⟩
        intro e he
        rcases mem_head?_settle he with rfl | he
        · exact Or.inr (Nat.le_of_lt hclass.right)
        · exact hhead e he
      · rename_i hclass
        refine inOrder_cons.mpr ⟨?_, h⟩
        intro e he
        cases he
        omega

theorem inOrder_ordered (text : Text) : InOrder (ordered text) := by
  induction text with
  | nil => exact List.isChain_nil
  | cons c rest ih => exact inOrder_settle ih

theorem ordered_eq_self_iff {text : Text} : ordered text = text ↔ InOrder text := by
  constructor
  · intro h
    rw [← h]
    exact inOrder_ordered text
  · intro h
    induction text with
    | nil => rfl
    | cons c rest ih =>
        rcases inOrder_cons.mp h with ⟨hhead, hrest⟩
        have hordered : ordered (c :: rest) = settle c rest := by
          rw [ordered, List.foldr_cons, ← ordered, ih hrest]
        rw [hordered]
        cases rest with
        | nil => rfl
        | cons d rest =>
            have hclass := hhead d rfl
            rw [settle, if_neg (by omega)]

theorem map_combiningClass_lowerAfter {text : Text} (hdotted : capitalDottedI ∉ text)
    (before : Text) :
    (lowerAfter before text).map combiningClass = text.map combiningClass := by
  induction text generalizing before with
  | nil => rfl
  | cons c rest ih =>
      rw [List.mem_cons, not_or] at hdotted
      rcases exists_lowerBetween (Ne.symm hdotted.left) before rest with ⟨d, heq, hclass, _⟩
      rw [lowerAfter_cons, heq, List.singleton_append, List.map_cons, List.map_cons, hclass,
        ih hdotted.right]

theorem inOrder_lowerAfter {text : Text} (hdotted : capitalDottedI ∉ text) (before : Text) :
    InOrder (lowerAfter before text) ↔ InOrder text := by
  rw [InOrder, map_combiningClass_lowerAfter hdotted, InOrder]

end Decomposition
end Unicode

namespace Text

open Unicode Decomposition

/-!
# Keys taken apart and folded again
-/

theorem plain_eq_self_iff {text : Text} : plain text = text ↔ ∀ c ∈ text, isDiacritic c = false := by
  rw [plain, List.filter_eq_self]
  simp only [Bool.not_eq_true']

theorem parts_eq_self {text : Text} (h : ∀ c ∈ text, ofChar c = [c]) : parts text = text :=
  (List.flatMap_congr h).trans (List.flatMap_singleton' text)

theorem ofChar_of_mem_decomposed {text : Text} {c : Char} (h : c ∈ decomposed text) :
    ofChar c = [c] := by
  rcases List.mem_flatMap.mp ((perm_ordered _).mem_iff.mp h) with ⟨d, _, hpart⟩
  exact (ofChar_of_mem_ofChar hpart).left

theorem capitalDottedI_not_mem_decomposed (text : Text) : capitalDottedI ∉ decomposed text := by
  rw [decomposed_eq, (perm_ordered _).mem_iff]
  exact capitalDottedI_not_mem_parts text

theorem parts_folded (text : Text) : parts (folded text) = folded text := by
  have hplain : parts (plain (decomposed text)) = plain (decomposed text) :=
    parts_eq_self fun c hc => ofChar_of_mem_decomposed (List.mem_of_mem_filter hc)
  rw [folded_eq, lower, parts_lowerAfter rfl, hplain]

theorem isDiacritic_of_mem_folded {text : Text} {c : Char} (h : c ∈ folded text) :
    isDiacritic c = false := by
  rw [folded_eq_plain] at h
  simpa using List.of_mem_filter h

theorem lower_folded (text : Text) : lower (folded text) = folded text := by
  rw [folded_eq, lower_lower]

theorem decomposed_folded (text : Text) : decomposed (folded text) = ordered (folded text) := by
  rw [decomposed_eq, parts_folded]

theorem folded_folded (text : Text) : folded (folded text) = ordered (folded text) := by
  have hplain : plain (ordered (folded text)) = ordered (folded text) :=
    plain_eq_self_iff.mpr fun c hc => isDiacritic_of_mem_folded ((perm_ordered _).mem_iff.mp hc)
  rw [folded_eq_plain, lower_folded, parts_folded, hplain]

theorem inOrder_folded_iff (text : Text) :
    InOrder (folded text) ↔ InOrder (plain (decomposed text)) := by
  rw [folded_eq, lower, inOrder_lowerAfter]
  exact fun h => capitalDottedI_not_mem_decomposed text (List.mem_of_mem_filter h)

/-!
# Marks around a joiner
-/

/-- Two marks that no key drops stand in the wrong order, with nothing but diacritics between them. -/
inductive Crossed : Text → Prop where
  | here {c d : Char} {between : Text} (after : Text) (hc : isDiacritic c = false)
      (hd : isDiacritic d = false) (hbetween : ∀ e ∈ between, isDiacritic e = true)
      (hmark : 0 < combiningClass d) (hclass : combiningClass d < combiningClass c) :
      Crossed (c :: (between ++ d :: after))
  | there (c : Char) {rest : Text} (h : Crossed rest) : Crossed (c :: rest)

theorem mem_head?_plain {text : Text} {d : Char} :
    d ∈ (plain text).head? ↔
      isDiacritic d = false ∧
        ∃ between after, text = between ++ d :: after ∧ ∀ e ∈ between, isDiacritic e = true := by
  rw [plain, List.head?_filter, Option.mem_def, List.find?_eq_some_iff_append]
  simp only [Bool.not_eq_true', Bool.not_not]

theorem crossed_cons_of_isDiacritic {c : Char} {rest : Text} (h : isDiacritic c = true) :
    Crossed (c :: rest) ↔ Crossed rest := by
  constructor
  · intro hcrossed
    cases hcrossed with
    | here _ hc => exact absurd (h.symm.trans hc) Bool.noConfusion
    | there _ hrest => exact hrest
  · exact Crossed.there c

theorem not_crossed_cons_iff {c : Char} {rest : Text} (h : isDiacritic c = false) :
    ¬Crossed (c :: rest) ↔
      (∀ d ∈ (plain rest).head?, combiningClass d = 0 ∨ combiningClass c ≤ combiningClass d) ∧
        ¬Crossed rest := by
  constructor
  · intro hnot
    refine ⟨?_, fun hrest => hnot (.there c hrest)⟩
    intro d hd
    rcases mem_head?_plain.mp hd with ⟨hplain, between, after, rfl, hbetween⟩
    by_contra hclass
    exact hnot (.here after h hplain hbetween (by omega) (by omega))
  · rintro ⟨hhead, hrest⟩ hcrossed
    cases hcrossed with
    | here after _ hd hbetween hmark hclass =>
        have horder := hhead _ (mem_head?_plain.mpr ⟨hd, _, after, rfl, hbetween⟩)
        omega
    | there _ hcrossed => exact hrest hcrossed

/-- Without its diacritics a text has its marks in order, unless two of them are crossed. -/
theorem inOrder_plain_iff (text : Text) : InOrder (plain text) ↔ ¬Crossed text := by
  induction text with
  | nil => exact iff_of_true List.isChain_nil (fun hcrossed => nomatch hcrossed)
  | cons c rest ih =>
      cases hmark : isDiacritic c with
      | true => rw [plain_cons_of_isDiacritic hmark, crossed_cons_of_isDiacritic hmark, ih]
      | false => rw [plain_cons hmark, inOrder_cons, not_crossed_cons_iff hmark, ih]

theorem combiningClass_diacritics : ∀ range ∈ [(⟨0x300, 0x36F⟩ : Interval)],
    ∀ code ∈ List.range' range.first (range.last + 1 - range.first),
      combiningClass (Char.ofNat code) = 0 → Char.ofNat code = graphemeJoiner := by
  decide +kernel

theorem eq_graphemeJoiner {c : Char} (h : isDiacritic c = true) (hclass : combiningClass c = 0) :
    c = graphemeJoiner := by
  simp only [isDiacritic, Bool.and_eq_true, decide_eq_true_eq] at h
  have hcovered : covered [⟨0x300, 0x36F⟩] c = true :=
    covered_iff.mpr ⟨_, List.mem_cons_self, h⟩
  exact forall_covered (p := fun c => combiningClass c = 0 → c = graphemeJoiner)
    combiningClass_diacritics hcovered hclass

theorem combiningClass_le_of_inOrder {c d : Char} {between after : Text}
    (h : InOrder (c :: (between ++ d :: after))) (hbetween : ∀ e ∈ between, combiningClass e ≠ 0)
    (hd : combiningClass d ≠ 0) : combiningClass c ≤ combiningClass d := by
  induction between generalizing c with
  | nil => exact ((inOrder_cons.mp h).left d rfl).resolve_left hd
  | cons e between ih =>
      rcases List.forall_mem_cons.mp hbetween with ⟨he, hrest⟩
      rcases inOrder_cons.mp h with ⟨hhead, htail⟩
      exact Nat.le_trans ((hhead e rfl).resolve_left he) (ih htail hrest)

/-- Only a joiner can keep two marks crossed. -/
theorem Crossed.graphemeJoiner_mem {text : Text} (h : Crossed text) (horder : InOrder text) :
    graphemeJoiner ∈ text := by
  induction h with
  | @here c d between after hc hd hbetween hmark hclass =>
      by_contra hnone
      have hmarks : ∀ e ∈ between, combiningClass e ≠ 0 := by
        intro e he hzero
        rw [eq_graphemeJoiner (hbetween e he) hzero] at he
        exact hnone (List.mem_cons_of_mem c (List.mem_append_left _ he))
      have hle := combiningClass_le_of_inOrder horder hmarks (by omega)
      omega
  | there c _ ih => exact List.mem_cons_of_mem c (ih (inOrder_cons.mp horder).right)

theorem graphemeJoiner_mem_of_mem_decomposed {text : Text} (h : graphemeJoiner ∈ decomposed text) :
    graphemeJoiner ∈ text := by
  rcases List.mem_flatMap.mp ((perm_ordered _).mem_iff.mp h) with ⟨c, hc, hpart⟩
  rw [(ofChar_of_mem_ofChar hpart).right rfl] at hc
  exact hc

/-!
# Normal forms
-/

/-- The key of the text is a normal form: it is its own key, its own decomposition and its own lower case, has
no diacritics, and is the key of all texts with the decomposition of this one. -/
structure HasNormalKey (text : Text) : Prop where
  key : folded (folded text) = folded text
  noDiacritic : ∀ c ∈ folded text, isDiacritic c = false
  decomposition : decomposed (folded text) = folded text
  lowerCase : lower (folded text) = folded text
  congr : ∀ other, decomposed other = decomposed text → folded other = folded text

/-- A key has no diacritics, no capitals, and depends on the decomposition of the text only.  It is a normal form
unless the decomposition has crossed marks, which only a grapheme joiner of the text can keep in their places. -/
theorem folded_normal_iff (text : Text) :
    (∀ c ∈ folded text, isDiacritic c = false) ∧ lower (folded text) = folded text ∧
      (∀ other, decomposed other = decomposed text → folded other = folded text) ∧
      (folded (folded text) = folded text ↔ ¬Crossed (decomposed text)) ∧
      (decomposed (folded text) = folded text ↔ ¬Crossed (decomposed text)) ∧
      (Crossed (decomposed text) → graphemeJoiner ∈ text) := by
  have horder : ordered (folded text) = folded text ↔ ¬Crossed (decomposed text) := by
    rw [ordered_eq_self_iff, inOrder_folded_iff, inOrder_plain_iff]
  refine ⟨fun _ => isDiacritic_of_mem_folded, lower_folded text, ?_, ?_, ?_, ?_⟩
  · intro other h
    rw [folded_eq, folded_eq, h]
  · rw [folded_folded, horder]
  · rw [decomposed_folded, horder]
  · intro hcrossed
    exact graphemeJoiner_mem_of_mem_decomposed (hcrossed.graphemeJoiner_mem (inOrder_ordered _))

def joinedMarks : Text :=
  [Char.ofNat 0x591, graphemeJoiner, Char.ofNat 0x5B0]

theorem folded_normal_iff_joinedMarks :
    decomposed "é".toList = decomposed ['e', Char.ofNat 0x301] ∧
      folded "é".toList = folded ['e', Char.ofNat 0x301] ∧
      Crossed (decomposed joinedMarks) ∧ graphemeJoiner ∈ joinedMarks := by
  have hsame : decomposed "é".toList = decomposed ['e', Char.ofNat 0x301] := by
    decide +kernel
  have hparts : decomposed joinedMarks = joinedMarks := by
    decide +kernel
  have hcrossed : Crossed (decomposed joinedMarks) := by
    have hjoined : Crossed (Char.ofNat 0x591 :: ([graphemeJoiner] ++ [Char.ofNat 0x5B0])) :=
      .here [] (by decide) (by decide) (by decide) (by decide +kernel) (by decide +kernel)
    rw [hparts]
    exact hjoined
  rcases folded_normal_iff ['e', Char.ofNat 0x301] with ⟨_, _, hkey, _⟩
  rcases folded_normal_iff joinedMarks with ⟨_, _, _, _, _, hjoiner⟩
  exact ⟨hsame, hkey _ hsame, hcrossed, hjoiner hcrossed⟩

/-- Without the joiner the marks are free to change places, and only the next folding does so. -/
theorem not_hasNormalKey_joinedMarks :
    ¬HasNormalKey joinedMarks ∧ folded joinedMarks = [Char.ofNat 0x591, Char.ofNat 0x5B0] ∧
      folded [Char.ofNat 0x591, Char.ofNat 0x5B0] = [Char.ofNat 0x5B0, Char.ofNat 0x591] := by
  have hkey : folded joinedMarks = [Char.ofNat 0x591, Char.ofNat 0x5B0] := by
    decide +kernel
  have hnext : folded [Char.ofNat 0x591, Char.ofNat 0x5B0] =
      [Char.ofNat 0x5B0, Char.ofNat 0x591] := by
    decide +kernel
  refine ⟨?_, hkey, hnext⟩
  intro h
  have hagain := h.key
  rw [hkey, hnext] at hagain
  exact absurd hagain (by decide)

end Text
end Polyquery
