import Polyquery.Proofs.Text.Letters

/-!
# Where a sigma stands

The form of a sigma depends on the nearest characters around it that are not case-ignorable, and of these only
on whether they are cased.  A class of characters that are looked through, or the order of marks, does not show
in the form.
-/

namespace Polyquery
namespace Unicode

open Text

/-!
# The nearest character that counts
-/

def casedTree : SearchTree Interval :=
  .ofTable 8 casedRanges

def caseIgnorableTree : SearchTree Interval :=
  .ofTable 9 caseIgnorableRanges

def nearest (text : Text) : Option Bool :=
  (text.dropWhile fun c => (caseIgnorableTree.find? id c.toNat).isSome).head?.map fun c =>
    (casedTree.find? id c.toNat).isSome

theorem find?_casedTree (code : Nat) :
    casedTree.find? id code = casedRanges.find? fun range => range.covers code :=
  SearchTree.find?_ofTable (by decide +kernel) (by decide +kernel)

theorem find?_caseIgnorableTree (code : Nat) :
    caseIgnorableTree.find? id code = caseIgnorableRanges.find? fun range => range.covers code :=
  SearchTree.find?_ofTable (by decide +kernel) (by decide +kernel)

theorem isSome_find?_casedTree (c : Char) : (casedTree.find? id c.toNat).isSome = isCased c := by
  rw [find?_casedTree, List.isSome_find?]
  rfl

theorem isSome_find?_caseIgnorableTree (c : Char) :
    (caseIgnorableTree.find? id c.toNat).isSome = isCaseIgnorable c := by
  rw [find?_caseIgnorableTree, List.isSome_find?]
  rfl

theorem nearest_eq (text : Text) :
    nearest text = (text.dropWhile isCaseIgnorable).head?.map isCased := by
  simp only [nearest, isSome_find?_casedTree, isSome_find?_caseIgnorableTree]

theorem nearest_cons (c : Char) (rest : Text) :
    nearest (c :: rest) = if isCaseIgnorable c = true then nearest rest else some (isCased c) := by
  rw [nearest_eq, nearest_eq, List.dropWhile_cons]
  split
  · rfl
  · rfl

theorem nearest_append (left right : Text) :
    nearest (left ++ right) = (nearest left).or (nearest right) := by
  induction left with
  | nil => rfl
  | cons c left ih =>
      rw [List.cons_append, nearest_cons, nearest_cons]
      split
      · exact ih
      · rfl

theorem reachesCased_eq (text : Text) : reachesCased text = (nearest text).getD false := by
  rw [nearest_eq]
  rfl

theorem reachesCased_append_eq_cons {left right rest : Text} {c : Char}
    (h : nearest left = nearest [c]) (hrest : reachesCased right = reachesCased rest) :
    reachesCased (left ++ right) = reachesCased (c :: rest) := by
  rw [reachesCased_eq, reachesCased_eq] at hrest ⊢
  rw [← List.singleton_append, nearest_append, nearest_append, h]
  cases nearest [c] with
  | none => exact hrest
  | some cased => rfl

theorem reachesCased_cons_congr (c : Char) {text other : Text}
    (h : reachesCased text = reachesCased other) :
    reachesCased (c :: text) = reachesCased (c :: other) := by
  rw [← List.singleton_append]
  exact reachesCased_append_eq_cons rfl h

theorem reachesCased_cons_of_ignorable {c : Char} (h : isCaseIgnorable c = true) (rest : Text) :
    reachesCased (c :: rest) = reachesCased rest := by
  rw [reachesCased_eq, reachesCased_eq, nearest_cons, if_pos h]

theorem lowerBetween_congr {before other rest tail : Text} (c : Char)
    (hbefore : reachesCased before = reachesCased other)
    (hrest : reachesCased rest = reachesCased tail) :
    lowerBetween before c rest = lowerBetween other c tail := by
  rw [lowerBetween, lowerBetween, hbefore, hrest]

/-- Of what stands in front of a text, only the nearest character matters. -/
theorem lowerAfter_congr {before other : Text} (h : reachesCased before = reachesCased other)
    (text : Text) : lowerAfter before text = lowerAfter other text := by
  induction text generalizing before other with
  | nil => rfl
  | cons c rest ih =>
      rw [lowerAfter_cons, lowerAfter_cons, lowerBetween_congr c h rfl,
        ih (reachesCased_cons_congr c h)]

/-!
# Marks
-/

theorem isCaseIgnorable_of_isDiacritic {c : Char} (h : isDiacritic c = true) :
    isCaseIgnorable c = true := by
  simp only [isDiacritic, Bool.and_eq_true, decide_eq_true_eq] at h
  have hrange : (⟨0x2B0, 0x36F⟩ : Interval) ∈ caseIgnorableRanges := by
    decide +kernel
  have hlow : 0x2B0 ≤ c.toNat := by omega
  exact covered_iff.mpr ⟨_, hrange, hlow, h.right⟩

theorem nearest_combining : ∀ entry ∈ combiningClasses,
    ∀ code ∈ List.range' entry.1.first (entry.1.last + 1 - entry.1.first),
      nearest [Char.ofNat code] ≠ some true := by
  decide +kernel

theorem nearest_of_combiningClass_pos {c : Char} (h : 0 < combiningClass c) :
    nearest [c] ≠ some true := by
  rcases exists_entry_of_combiningClass_pos h with ⟨entry, hentry, hcode⟩
  have hnearest := nearest_combining entry hentry c.toNat hcode
  rw [Char.ofNat_toNat] at hnearest
  exact hnearest

theorem reachesCased_swap {c d : Char} (hc : 0 < combiningClass c) (hd : 0 < combiningClass d)
    (rest : Text) : reachesCased (c :: d :: rest) = reachesCased (d :: c :: rest) := by
  have hcombining := nearest_of_combiningClass_pos hc
  have hother := nearest_of_combiningClass_pos hd
  simp only [reachesCased_eq, nearest_cons] at hcombining hother ⊢
  cases hignorable : isCaseIgnorable c with
  | true => simp only [if_true]
  | false =>
      cases hignorableOther : isCaseIgnorable d with
      | true => simp only [if_true]
      | false =>
          -- neither mark is looked through, so neither is cased
          simp only [hignorable, hignorableOther, Bool.false_eq_true, if_false, ne_eq,
            Option.some.injEq, Bool.not_eq_true] at hcombining hother ⊢
          rw [hcombining, hother]

theorem reachesCased_settle (c : Char) (text : Text) :
    reachesCased (Decomposition.settle c text) = reachesCased (c :: text) := by
  induction text with
  | nil => rfl
  | cons d rest ih =>
      rw [Decomposition.settle]
      split
      · rename_i hclass
        rw [reachesCased_cons_congr d ih]
        exact reachesCased_swap hclass.left (by omega) rest
      · rfl

/-- The order of marks does not show in the form of a sigma beside them. -/
theorem reachesCased_ordered (text : Text) :
    reachesCased (Decomposition.ordered text) = reachesCased text := by
  induction text with
  | nil => rfl
  | cons c rest ih =>
      exact (reachesCased_settle c _).trans (reachesCased_cons_congr c ih)

end Unicode

namespace Text

open Unicode

def plain (text : Text) : Text :=
  text.filter fun c => !isDiacritic c

theorem plain_cons_of_isDiacritic {c : Char} (h : isDiacritic c = true) (rest : Text) :
    plain (c :: rest) = plain rest :=
  List.filter_cons_of_neg (by rw [h]; decide)

theorem plain_cons {c : Char} (h : isDiacritic c = false) (rest : Text) :
    plain (c :: rest) = c :: plain rest :=
  List.filter_cons_of_pos (by rw [h]; rfl)

theorem plain_append (left right : Text) : plain (left ++ right) = plain left ++ plain right :=
  List.filter_append _ _

theorem folded_eq (text : Text) : folded text = lower (plain text.decomposed) := rfl

theorem reachesCased_plain (text : Text) : reachesCased (plain text) = reachesCased text := by
  induction text with
  | nil => rfl
  | cons c rest ih =>
      cases hmark : isDiacritic c with
      | true =>
          rw [plain_cons_of_isDiacritic hmark, ih,
            reachesCased_cons_of_ignorable (isCaseIgnorable_of_isDiacritic hmark)]
      | false =>
          rw [plain_cons hmark]
          exact reachesCased_cons_congr c ih

end Text
end Polyquery
