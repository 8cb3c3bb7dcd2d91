import Polyquery.Proofs.Text.Capitals

/-!
# Keys in lower case

Lower case can be taken before or after each of the other steps towards a search key: before or after a text is
taken apart, its marks are ordered and its diacritics are dropped.  What stands in front of a text may be
replaced by anything that looks the same to a sigma.  So a text and its lower case have the same key.
-/

namespace Polyquery
namespace Text

open Unicode

def parts (text : Text) : Text :=
  text.flatMap Decomposition.ofChar

theorem parts_append (left right : Text) : parts (left ++ right) = parts left ++ parts right :=
  List.flatMap_append

theorem decomposed_eq (text : Text) : decomposed text = Decomposition.ordered (parts text) := rfl

theorem capitalDottedI_not_mem_parts (text : Text) : capitalDottedI ∉ parts text := by
  intro h
  rcases List.mem_flatMap.mp h with ⟨c, _, hpart⟩
  exact (Decomposition.special_of_mem_ofChar hpart).left rfl

/-!
# Lower case and parts
-/

theorem reachesCased_parts (text : Text) : reachesCased (parts text) = reachesCased text := by
  induction text with
  | nil => rfl
  | cons c rest ih =>
      rw [parts, List.flatMap_cons]
      exact reachesCased_append_eq_cons (Decomposition.nearest_ofChar c).left ih

/-- Away from capital sigmas, lower case is taken character by character. -/
theorem lowerAfter_append_of_not_mem {text : Text} (h : capitalSigma ∉ text)
    (before rest : Text) :
    lowerAfter before (text ++ rest) =
      text.flatMap lowerChar ++ lowerAfter (text.reverse ++ before) rest := by
  induction text generalizing before with
  | nil => rfl
  | cons c text ih =>
      rw [List.mem_cons, not_or] at h
      rw [List.cons_append, lowerAfter_cons, lowerBetween, if_neg (Ne.symm h.left), ih h.right,
        List.flatMap_cons, List.reverse_cons, List.append_assoc, List.append_assoc,
        List.singleton_append]

theorem parts_lowerAfter {before other : Text} (h : reachesCased before = reachesCased other)
    (text : Text) : parts (lowerAfter before text) = lowerAfter other (parts text) := by
  induction text generalizing before other with
  | nil => rfl
  | cons c rest ih =>
      have hparts : parts (c :: rest) = Decomposition.ofChar c ++ parts rest := rfl
      rw [lowerAfter_cons, parts_append, hparts]
      by_cases hsigma : c = capitalSigma
      · subst hsigma
        have hcapital := (CapitalTables.sigmas capitalTables capitalSigma (by decide)).right.right
        have hsmall := (CapitalTables.sigmas capitalTables smallSigma (by decide)).right.right
        have hfinal := (CapitalTables.sigmas capitalTables finalSigma (by decide)).right.right
        have hform : parts (lowerBetween before capitalSigma rest) =
            lowerBetween other capitalSigma (parts rest) := by
          rw [lowerBetween_congr capitalSigma h (reachesCased_parts rest).symm, lowerBetween,
            if_pos rfl]
          split
          · rw [parts, List.flatMap_singleton, hfinal]
          · rw [parts, List.flatMap_singleton, hsmall]
        rw [hform, hcapital, List.singleton_append, lowerAfter_cons,
          ih (reachesCased_cons_congr capitalSigma h)]
      · have hfree : capitalSigma ∉ Decomposition.ofChar c := by
          intro hmem
          exact hsigma ((Decomposition.special_of_mem_ofChar hmem).right (by decide)).symm
        have hbefore : reachesCased (c :: before) =
            reachesCased ((Decomposition.ofChar c).reverse ++ other) :=
          (reachesCased_append_eq_cons (Decomposition.nearest_ofChar c).right h.symm).symm
        rw [lowerAfter_append_of_not_mem hfree, lowerBetween, if_neg hsigma, parts,
          Decomposition.flatMap_ofChar_lowerChar, ih hbefore]

/-!
# Lower case and the order of marks
-/

theorem lowerAfter_settle {c : Char} (hc : 0 < combiningClass c) (before text : Text) :
    lowerAfter before (Decomposition.settle c text) =
      Decomposition.settle c (lowerAfter (c :: before) text) := by
  induction text generalizing before with
  | nil =>
      rw [Decomposition.settle, lowerAfter_cons, lowerBetween_of_combiningClass_pos hc]
      rfl
  | cons d rest ih =>
      rw [Decomposition.settle]
      split
      · rename_i hclass
        have hmark := fun place tail => lowerBetween_of_combiningClass_pos hclass.left place tail
        rw [lowerAfter_cons, hmark, lowerAfter_cons, hmark, List.singleton_append,
          List.singleton_append, ih, Decomposition.settle, if_pos hclass,
          lowerAfter_congr (reachesCased_swap hc hclass.left before)]
      · rename_i hclass
        rcases exists_cons_lowerBetween (c :: before) d rest with ⟨e, tail, heq, hsame⟩
        rw [lowerAfter_cons, lowerBetween_of_combiningClass_pos hc, lowerAfter_cons, heq,
          List.singleton_append, List.cons_append, Decomposition.settle, hsame, if_neg hclass]

theorem settle_of_combiningClass_eq_zero {c : Char} (h : combiningClass c = 0) (text : Text) :
    Decomposition.settle c text = c :: text := by
  cases text with
  | nil => rfl
  | cons d rest =>
      rw [Decomposition.settle, h]
      exact if_neg fun hclass => Nat.not_lt_zero _ hclass.right

theorem lowerAfter_ordered {text : Text} (hdotted : capitalDottedI ∉ text) (before : Text) :
    lowerAfter before (Decomposition.ordered text) =
      Decomposition.ordered (lowerAfter before text) := by
  induction text generalizing before with
  | nil => rfl
  | cons c rest ih =>
      rw [List.mem_cons, not_or] at hdotted
      have hordered : Decomposition.ordered (c :: rest) =
          Decomposition.settle c (Decomposition.ordered rest) := rfl
      rw [hordered, lowerAfter_cons]
      rcases Nat.eq_zero_or_pos (combiningClass c) with hzero | hpos
      · rcases exists_lowerBetween (Ne.symm hdotted.left) before rest with ⟨d, heq, hclass, _⟩
        have hd : combiningClass d = 0 := hclass.trans hzero
        rw [settle_of_combiningClass_eq_zero hzero, lowerAfter_cons,
          lowerBetween_congr c rfl (reachesCased_ordered rest), heq, ih hdotted.right]
        exact (settle_of_combiningClass_eq_zero hd _).symm
      · rw [lowerAfter_settle hpos, lowerBetween_of_combiningClass_pos hpos, ih hdotted.right]
        rfl

/-!
# Lower case and diacritics
-/

theorem lowerAfter_plain {text : Text} (hdotted : capitalDottedI ∉ text) (before : Text) :
    lowerAfter before (plain text) = plain (lowerAfter before text) := by
  induction text generalizing before with
  | nil => rfl
  | cons c rest ih =>
      rw [List.mem_cons, not_or] at hdotted
      rcases exists_lowerBetween (Ne.symm hdotted.left) before rest with ⟨d, heq, _, hsame⟩
      rw [lowerAfter_cons, heq, List.singleton_append]
      cases hmark : isDiacritic c with
      | true =>
          have hignorable := isCaseIgnorable_of_isDiacritic hmark
          rw [plain_cons_of_isDiacritic hmark, plain_cons_of_isDiacritic (hsame.trans hmark),
            ih hdotted.right, lowerAfter_congr (reachesCased_cons_of_ignorable hignorable before)]
      | false =>
          rw [plain_cons hmark, plain_cons (hsame.trans hmark), lowerAfter_cons,
            lowerBetween_congr c rfl (reachesCased_plain rest), heq, ih hdotted.right,
            List.singleton_append]

/-- The key of a text is read off its lower case without going back to the text. -/
theorem folded_eq_plain (text : Text) :
    folded text = plain (Decomposition.ordered (parts (lower text))) := by
  have hdotted := capitalDottedI_not_mem_parts text
  have hordered : capitalDottedI ∉ Decomposition.ordered (parts text) := by
    rw [(Decomposition.perm_ordered _).mem_iff]
    exact hdotted
  have hparts : parts (lower text) = lowerAfter [] (parts text) := parts_lowerAfter rfl text
  rw [folded_eq, lower, decomposed_eq, lowerAfter_plain hordered, lowerAfter_ordered hdotted,
    ← hparts]

/-- A text and its lower case have the same search key. -/
theorem folded_lower (text : Text) : folded (lower text) = folded text := by
  rw [folded_eq_plain, lower_lower, ← folded_eq_plain]

end Text
end Polyquery
