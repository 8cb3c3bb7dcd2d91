import Polyquery.Proofs.Text.SmallLetters

/-!
# Keys in upper case

A text keeps its key in upper case exactly if each of its characters has the key of its capital, apart from small
sigmas, and each small sigma has the form that its capital takes in its place.  For what upper case does to a key
can be told from the key: it makes a key longer or takes strays out of it, or it changes the sigmas.
-/

namespace Polyquery
namespace Text

open Unicode

/-!
# What becomes of single characters
-/

theorem upper_cons (c : Char) (rest : Text) : upper (c :: rest) = upperChar c ++ upper rest := rfl

theorem lower_eq_flatMap {text : Text} (h : capitalSigma ∉ text) :
    lower text = text.flatMap lowerChar := by
  have happend := lowerAfter_append_of_not_mem h [] []
  rw [List.append_nil, lowerAfter, List.append_nil] at happend
  exact happend

theorem folded_eq_of_sameParts {c : Char} {capital : Text} (hc : c ≠ capitalSigma)
    (h : SameParts c capital) : folded capital = folded [c] := by
  have hsingle : capitalSigma ∉ [c] := by
    rw [List.mem_singleton]
    exact Ne.symm hc
  rw [folded_eq_plain, folded_eq_plain, lower_eq_flatMap h.sigma, lower_eq_flatMap hsingle, h.parts,
    List.flatMap_singleton]

theorem sameParts_of_folded_eq {c : Char} (hc : c ∉ sigmas)
    (h : folded (upperChar c) = folded [c]) : SameParts c (upperChar c) := by
  rcases upperChar_cases hc with hparts | hlonger | hstray
  · exact hparts
  · rw [h] at hlonger
    exact absurd hlonger (Nat.lt_irrefl _)
  · exact absurd h (astray_of_isStray hstray).folded_ne

/-- A character keeps its key in upper case, apart from the form of a sigma. -/
def KeepsLetter (c : Char) : Prop :=
  c ∈ sigmas ∨ folded (upperChar c) = folded [c]

theorem nearest_upperChar {c : Char} (h : KeepsLetter c) :
    nearest (upperChar c) = nearest [c] ∧ nearest (upperChar c).reverse = nearest [c] := by
  by_cases hc : c ∈ sigmas
  · rcases RaiseTables.sigmas raiseTables c hc with ⟨hupper, hcased⟩
    rcases RaiseTables.sigmas raiseTables capitalSigma List.mem_cons_self with ⟨_, hcapital⟩
    rw [hupper, hcased]
    exact ⟨hcapital, hcapital⟩
  · have hparts := sameParts_of_folded_eq hc (h.resolve_left hc)
    exact ⟨hparts.near, hparts.back⟩

theorem reachesCased_upper {text : Text} (h : ∀ c ∈ text, KeepsLetter c) :
    reachesCased (upper text) = reachesCased text := by
  induction text with
  | nil => rfl
  | cons c rest ih =>
      rcases List.forall_mem_cons.mp h with ⟨hc, hrest⟩
      exact reachesCased_append_eq_cons (nearest_upperChar hc).left (ih hrest)

theorem reachesCased_reverse_upperChar {c : Char} {before other : Text} (h : KeepsLetter c)
    (hbefore : reachesCased other = reachesCased before) :
    reachesCased ((upperChar c).reverse ++ other) = reachesCased (c :: before) :=
  reachesCased_append_eq_cons (nearest_upperChar h).right hbefore

/-!
# Texts that keep their key
-/

/-- A small sigma is the form that its capital takes in its place, and any other character has the key of its
capital. -/
def KeepsKeyAt (before : Text) (c : Char) (rest : Text) : Prop :=
  if c = smallSigma ∨ c = finalSigma then lowerBetween before capitalSigma rest = [c]
  else folded (upper [c]) = folded [c]

def KeepsKeyAfter (before : Text) : Text → Prop
  | [] => True
  | c :: rest => KeepsKeyAt before c rest ∧ KeepsKeyAfter (c :: before) rest

/-- All characters of the text keep their key in upper case, small sigmas in their places. -/
def KeepsKey (text : Text) : Prop :=
  KeepsKeyAfter [] text

instance (before : Text) (c : Char) (rest : Text) : Decidable (KeepsKeyAt before c rest) :=
  inferInstanceAs (Decidable (ite _ _ _))

instance decidableKeepsKeyAfter : (before text : Text) → Decidable (KeepsKeyAfter before text)
  | _, [] => isTrue trivial
  | before, c :: rest =>
    have := decidableKeepsKeyAfter (c :: before) rest
    inferInstanceAs (Decidable (KeepsKeyAt before c rest ∧ KeepsKeyAfter (c :: before) rest))

instance (text : Text) : Decidable (KeepsKey text) :=
  inferInstanceAs (Decidable (KeepsKeyAfter [] text))

theorem KeepsKeyAfter.keepsLetter {before text : Text} (h : KeepsKeyAfter before text) :
    ∀ c ∈ text, KeepsLetter c := by
  induction text generalizing before with
  | nil => simp
  | cons c rest ih =>
      refine List.forall_mem_cons.mpr ⟨?_, ih h.right⟩
      have hc := h.left
      rw [KeepsKeyAt] at hc
      split at hc
      · rename_i hsigma
        exact Or.inl (List.mem_cons_of_mem _ (List.mem_pair.mpr hsigma))
      · rw [upper_cons, upper, List.flatMap_nil, List.append_nil] at hc
        exact Or.inr hc

theorem keepsKeyAt_iff_of_sigma {before rest : Text} {c : Char}
    (hc : c ∈ sigmas) :
    KeepsKeyAt before c rest ↔
      lowerBetween before capitalSigma rest = lowerBetween before c rest := by
  rw [KeepsKeyAt]
  rcases List.mem_cons.mp hc with rfl | hsmall
  · have hne : ¬(capitalSigma = smallSigma ∨ capitalSigma = finalSigma) := by
      decide
    have hupper := (RaiseTables.sigmas raiseTables capitalSigma hc).left
    rw [if_neg hne, upper_cons, hupper]
    exact iff_of_true rfl rfl
  · have hne : c ≠ capitalSigma := by
      rintro rfl
      exact absurd hsmall (by decide)
    have hlower : lowerChar c = [c] := by
      rcases List.mem_pair.mp hsmall with rfl | rfl
      · exact lowerChar_sigma.right.left
      · exact lowerChar_sigma.left
    have hself : lowerBetween before c rest = [c] := by
      rw [lowerBetween, if_neg hne, hlower]
    rw [if_pos (List.mem_pair.mp hsmall), hself]

/-- Lower case gives the parts of a text back from its upper case, if all its characters keep their keys. -/
theorem parts_lowerAfter_upper {before other text : Text} (h : KeepsKeyAfter before text)
    (hbefore : reachesCased other = reachesCased before) :
    parts (lowerAfter other (upper text)) = parts (lowerAfter before text) := by
  induction text generalizing before other with
  | nil => rfl
  | cons c rest ih =>
      rcases List.forall_mem_cons.mp h.keepsLetter with ⟨hc, hrest⟩
      have hnext := ih h.right (reachesCased_reverse_upperChar hc hbefore)
      rw [upper_cons, lowerAfter_cons, parts_append, ← hnext]
      by_cases hsigma : c ∈ sigmas
      · rw [(RaiseTables.sigmas raiseTables c hsigma).left, List.singleton_append, lowerAfter_cons,
          parts_append, lowerBetween_congr capitalSigma hbefore (reachesCased_upper hrest),
          (keepsKeyAt_iff_of_sigma hsigma).mp h.left]
        rfl
      · have hparts := sameParts_of_folded_eq hsigma (hc.resolve_left hsigma)
        have hne := ne_capitalSigma_of_not_mem hsigma
        rw [lowerAfter_append_of_not_mem hparts.sigma, parts_append, hparts.parts, lowerBetween,
          if_neg hne]

/-!
# The length of a key
-/

theorem length_lowerAfter {text : Text} (hdotted : capitalDottedI ∉ text) (before : Text) :
    (lowerAfter before text).length = text.length := by
  induction text generalizing before with
  | nil => rfl
  | cons c rest ih =>
      rw [List.mem_cons, not_or] at hdotted
      rcases exists_lowerBetween (Ne.symm hdotted.left) before rest with ⟨d, heq, _⟩
      rw [lowerAfter_cons, heq, List.singleton_append, List.length_cons, List.length_cons,
        ih hdotted.right]

theorem length_folded (text : Text) : (folded text).length = (plain (parts text)).length := by
  have hplain : capitalDottedI ∉ plain (decomposed text) := by
    intro hmem
    have hparts := (Decomposition.perm_ordered _).mem_iff.mp (List.mem_of_mem_filter hmem)
    exact capitalDottedI_not_mem_parts text hparts
  rw [folded_eq, lower, length_lowerAfter hplain]
  exact ((Decomposition.perm_ordered (parts text)).filter _).length_eq

theorem length_folded_append (left right : Text) :
    (folded (left ++ right)).length = (folded left).length + (folded right).length := by
  rw [length_folded, length_folded, length_folded, parts_append, plain_append, List.length_append]

theorem length_folded_le (c : Char) :
    (folded [c]).length ≤ (folded (upperChar c)).length := by
  by_cases hc : c ∈ sigmas
  · have hlengths : ∀ sigma ∈ sigmas,
        (folded [sigma]).length ≤ (folded (upperChar sigma)).length := by
      decide +kernel
    exact hlengths c hc
  · rcases upperChar_cases hc with hparts | hlonger | hstray
    · rw [folded_eq_of_sameParts (ne_capitalSigma_of_not_mem hc) hparts]
    · exact Nat.le_of_lt hlonger
    · exact Nat.le_of_eq (astray_of_isStray hstray).length_eq.symm

theorem length_folded_upper (text : Text) :
    (folded text).length ≤ (folded (upper text)).length ∧
      ((folded (upper text)).length = (folded text).length →
        ∀ c ∈ text, (folded (upperChar c)).length = (folded [c]).length) := by
  induction text with
  | nil => simp [upper]
  | cons c rest ih =>
      have hle := length_folded_le c
      rw [upper_cons, ← List.singleton_append, length_folded_append, length_folded_append]
      refine ⟨by omega, ?_⟩
      intro hlength
      refine List.forall_mem_cons.mpr ⟨by omega, ih.right ?_⟩
      omega

/-!
# Strays
-/

theorem mem_folded {text : Text} {e : Char} :
    e ∈ folded text ↔
      (∃ d ∈ lower text, e ∈ Decomposition.ofChar d) ∧ isDiacritic e = false := by
  rw [folded_eq_plain, plain, List.mem_filter, (Decomposition.perm_ordered _).mem_iff, parts,
    List.mem_flatMap, Bool.not_eq_true']

theorem mem_lowerAfter {before text : Text} {d : Char} (h : d ∈ lowerAfter before text) :
    d = finalSigma ∨ ∃ c ∈ text, d ∈ lowerChar c := by
  induction text generalizing before with
  | nil => cases h
  | cons c rest ih =>
      rw [lowerAfter_cons, List.mem_append, lowerBetween] at h
      rcases h with h | h
      · split at h
        · rename_i hsigma
          rw [List.mem_singleton] at h
          split at h
          · exact Or.inl h
          · refine Or.inr ⟨c, List.mem_cons_self, ?_⟩
            rw [hsigma, RaiseTables.loweredSigma raiseTables, h]
            exact List.mem_singleton_self _
        · exact Or.inr ⟨c, List.mem_cons_self, h⟩
      · rcases ih h with hfinal | ⟨b, hb, hlower⟩
        · exact Or.inl hfinal
        · exact Or.inr ⟨b, List.mem_cons_of_mem c hb, hlower⟩

theorem mem_lowerAfter_of_mem {before text : Text} {c d : Char} (hc : c ∈ text)
    (hne : c ≠ capitalSigma) (hd : d ∈ lowerChar c) : d ∈ lowerAfter before text := by
  induction text generalizing before with
  | nil => cases hc
  | cons b rest ih =>
      rw [lowerAfter_cons, List.mem_append]
      rcases List.mem_cons.mp hc with rfl | hrest
      · rw [lowerBetween, if_neg hne]
        exact Or.inl hd
      · exact Or.inr (ih hrest)

theorem not_isStray_of_mem_folded_upper {text : Text} {e : Char} (h : e ∈ folded (upper text)) :
    isStray e = false := by
  rcases (mem_folded.mp h).left with ⟨d, hd, he⟩
  rcases mem_lowerAfter hd with rfl | ⟨capital, hcapital, hlower⟩
  · have hparts : ∀ part ∈ Decomposition.ofChar finalSigma, isStray part = false := by
      decide +kernel
    exact hparts e he
  · rcases List.mem_flatMap.mp hcapital with ⟨c, _, hupper⟩
    exact not_isStray_of_mem_ofChar (upperChar_of_mem hupper) hlower he

theorem exists_stray_of_mem {text : Text} {c : Char} (hc : c ∈ text) (hstray : isStray c = true) :
    ∃ e ∈ folded text, isStray e = true := by
  have hne : c ≠ capitalSigma := by
    rintro rfl
    exact absurd hstray (by decide)
  have hsingle : capitalSigma ∉ [c] := by
    rw [List.mem_singleton]
    exact Ne.symm hne
  rcases List.any_eq_true.mp (astray_of_isStray hstray).stray with ⟨e, he, hestray⟩
  rcases mem_folded.mp he with ⟨⟨d, hd, hpart⟩, hmark⟩
  rw [lower_eq_flatMap hsingle, List.flatMap_singleton] at hd
  exact ⟨e, mem_folded.mpr ⟨⟨d, mem_lowerAfter_of_mem hc hne hd, hpart⟩, hmark⟩, hestray⟩

theorem keepsLetter_of_folded_eq {text : Text} (h : folded (upper text) = folded text) :
    ∀ c ∈ text, KeepsLetter c := by
  intro c hc
  by_cases hsigma : c ∈ sigmas
  · exact Or.inl hsigma
  · have hlength := (length_folded_upper text).right (congrArg List.length h) c hc
    rcases upperChar_cases hsigma with hparts | hlonger | hstray
    · exact Or.inr (folded_eq_of_sameParts (ne_capitalSigma_of_not_mem hsigma) hparts)
    · omega
    · rcases exists_stray_of_mem hc hstray with ⟨e, he, hestray⟩
      rw [← h] at he
      rw [not_isStray_of_mem_folded_upper he] at hestray
      cases hestray

/-!
# Sigmas
-/

def isSmallSigma (c : Char) : Bool :=
  decide (c ∈ [smallSigma, finalSigma])

theorem filter_settle {p : Char → Bool} (hp : ∀ c, 0 < combiningClass c → p c = false) (c : Char)
    (text : Text) : (Decomposition.settle c text).filter p = (c :: text).filter p := by
  induction text with
  | nil => rfl
  | cons d rest ih =>
      rw [Decomposition.settle]
      split
      · rename_i hclass
        have hc : 0 < combiningClass c := by omega
        simp only [List.filter_cons, ih, hp c hc, hp d hclass.left]
        rfl
      · rfl

theorem filter_ordered {p : Char → Bool} (hp : ∀ c, 0 < combiningClass c → p c = false)
    (text : Text) : (Decomposition.ordered text).filter p = text.filter p := by
  induction text with
  | nil => rfl
  | cons c rest ih =>
      have hordered : Decomposition.ordered (c :: rest) =
          Decomposition.settle c (Decomposition.ordered rest) := rfl
      rw [hordered, filter_settle hp, List.filter_cons, List.filter_cons, ih]

theorem filter_ofChar (c : Char) :
    (Decomposition.ofChar c).filter isSmallSigma = [c].filter isSmallSigma := by
  cases hc : isSmallSigma c with
  | true =>
      have hsigma : c ∈ sigmas :=
        List.mem_cons_of_mem _ (of_decide_eq_true hc)
      rw [(CapitalTables.sigmas capitalTables c hsigma).right.right]
  | false =>
      rw [List.filter_singleton, hc, Bool.cond_false, List.filter_eq_nil_iff]
      intro d hd hsmall
      have hsigma : d ∈ sigmas :=
        List.mem_cons_of_mem _ (of_decide_eq_true hsmall)
      rw [(Decomposition.special_of_mem_ofChar hd).right hsigma, hc] at hsmall
      cases hsmall

theorem filter_parts (text : Text) :
    (parts text).filter isSmallSigma = text.filter isSmallSigma := by
  induction text with
  | nil => rfl
  | cons c rest ih =>
      rw [← List.singleton_append, parts_append, List.filter_append, List.filter_append, ih, parts,
        List.flatMap_singleton, filter_ofChar]

theorem isSmallSigma_of_combiningClass_pos {c : Char} (h : 0 < combiningClass c) :
    isSmallSigma c = false := by
  apply decide_eq_false
  intro hsmall
  rw [(CapitalTables.sigmas capitalTables c (List.mem_cons_of_mem _ hsmall)).left] at h
  exact absurd h (Nat.lt_irrefl 0)

theorem filter_plain (text : Text) :
    (plain text).filter isSmallSigma = text.filter isSmallSigma := by
  rw [plain, List.filter_filter]
  apply List.filter_congr
  intro c _
  cases hc : isSmallSigma c with
  | false => rfl
  | true =>
      have hsigma : c ∈ sigmas :=
        List.mem_cons_of_mem _ (of_decide_eq_true hc)
      rw [(CapitalTables.sigmas capitalTables c hsigma).right.left]
      rfl

theorem filter_folded (text : Text) :
    (folded text).filter isSmallSigma = (lower text).filter isSmallSigma := by
  rw [folded_eq_plain, filter_plain, filter_ordered fun c => isSmallSigma_of_combiningClass_pos,
    filter_parts]

theorem exists_form {c : Char} (hc : c ∈ sigmas)
    (before rest : Text) :
    ∃ form, lowerBetween before c rest = [form] ∧ isSmallSigma form = true := by
  rw [lowerBetween]
  rcases List.mem_cons.mp hc with rfl | hsmall
  · rw [if_pos rfl]
    split
    · exact ⟨finalSigma, rfl, by decide⟩
    · exact ⟨smallSigma, rfl, by decide⟩
  · rcases List.mem_pair.mp hsmall with rfl | rfl
    · exact ⟨smallSigma, lowerChar_sigma.right.left, by decide⟩
    · exact ⟨finalSigma, lowerChar_sigma.left, by decide⟩

theorem keepsKeyAfter_of_filter_eq {before other text : Text} (h : ∀ c ∈ text, KeepsLetter c)
    (hbefore : reachesCased other = reachesCased before)
    (hfilter : (lowerAfter other (upper text)).filter isSmallSigma =
      (lowerAfter before text).filter isSmallSigma) : KeepsKeyAfter before text := by
  induction text generalizing before other with
  | nil => exact trivial
  | cons c rest ih =>
      rcases List.forall_mem_cons.mp h with ⟨hc, hrest⟩
      have hnext := reachesCased_reverse_upperChar hc hbefore
      rw [upper_cons, lowerAfter_cons, List.filter_append] at hfilter
      by_cases hsigma : c ∈ sigmas
      · have hplace := lowerBetween_congr capitalSigma hbefore (reachesCased_upper hrest)
        rcases exists_form (List.mem_cons_self (l := [smallSigma, finalSigma])) before rest with
          ⟨raised, hraised, hsmall⟩
        rcases exists_form hsigma before rest with ⟨form, hform, hformSmall⟩
        rw [(RaiseTables.sigmas raiseTables c hsigma).left] at hfilter hnext
        rw [List.singleton_append, lowerAfter_cons, List.filter_append, hplace, hraised, hform,
          List.filter_singleton, List.filter_singleton, hsmall, hformSmall] at hfilter
        rcases List.cons.inj hfilter with ⟨hsame, htail⟩
        refine ⟨(keepsKeyAt_iff_of_sigma hsigma).mpr ?_, ih hrest hnext htail⟩
        rw [hraised, hform, hsame]
      · have hkeeps := hc.resolve_left hsigma
        have hparts := sameParts_of_folded_eq hsigma hkeeps
        have hne := ne_capitalSigma_of_not_mem hsigma
        have hsmall : ¬(c = smallSigma ∨ c = finalSigma) := by
          intro hsmall
          exact hsigma (List.mem_cons_of_mem _ (List.mem_pair.mpr hsmall))
        -- the capital and the character have the same parts, so they add the same sigmas
        have hadded : ((upperChar c).flatMap lowerChar).filter isSmallSigma =
            (lowerBetween before c rest).filter isSmallSigma := by
          rw [← filter_parts, hparts.parts, filter_parts, lowerBetween, if_neg hne]
        rw [lowerAfter_append_of_not_mem hparts.sigma, List.filter_append, hadded] at hfilter
        refine ⟨?_, ih hrest hnext (List.append_cancel_left hfilter)⟩
        rw [KeepsKeyAt, if_neg hsmall, upper, List.flatMap_singleton]
        exact hkeeps

/-- Upper case keeps the key of a text exactly if it keeps the keys of its characters. -/
theorem folded_upper_iff (text : Text) : folded (upper text) = folded text ↔ KeepsKey text := by
  constructor
  · intro h
    have hfilter := congrArg (List.filter isSmallSigma) h
    rw [filter_folded, filter_folded] at hfilter
    exact keepsKeyAfter_of_filter_eq (keepsLetter_of_folded_eq h) rfl hfilter
  · intro h
    have hparts : parts (lower (upper text)) = parts (lower text) := parts_lowerAfter_upper h rfl
    rw [folded_eq_plain, hparts, ← folded_eq_plain]

example : ¬KeepsKey "straße".toList ∧ KeepsKey "σοφός".toList ∧ ¬KeepsKey "σοφόσ".toList := by
  decide +kernel

end Text
end Polyquery
