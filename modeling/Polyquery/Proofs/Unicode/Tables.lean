import Mathlib.Data.List.Chain
import Polyquery.Unicode.Decomposition
import Polyquery.Unicode.LowerCase
import Polyquery.Unicode.UpperCase

/-!
# Tables and their search trees

A search tree answers like its table: when the entries of a table are for disjoint intervals in ascending
order, halving the table loses none of them.  All tables of the library are of this kind.
-/

namespace Polyquery
namespace Unicode

variable {α : Type} {span : α → Interval}

/-!
# Intervals code by code
-/

theorem Interval.mem_range'_of_covers {range : Interval} {code : Nat}
    (h : range.covers code = true) :
    code ∈ List.range' range.first (range.last + 1 - range.first) := by
  rw [Interval.covers_iff] at h
  rw [List.mem_range'_1]
  omega

theorem forall_covered {ranges : List Interval} {p : Char → Prop}
    (h : ∀ range ∈ ranges, ∀ code ∈ List.range' range.first (range.last + 1 - range.first),
      p (Char.ofNat code)) {c : Char} (hc : covered ranges c = true) : p c := by
  rcases covered_iff.mp hc with ⟨range, hrange, hbounds⟩
  have hcovers := Interval.covers_iff.mpr hbounds
  have hcode := h range hrange c.toNat (Interval.mem_range'_of_covers hcovers)
  rw [Char.ofNat_toNat] at hcode
  exact hcode

/-!
# Ascending tables
-/

def Before (span : α → Interval) (a b : α) : Prop :=
  (span a).first ≤ (span a).last ∧ (span a).last < (span b).first ∧ (span b).first ≤ (span b).last

instance (a b : α) : Decidable (Before span a b) :=
  inferInstanceAs (Decidable (_ ∧ _ ∧ _))

instance : Trans (Before span) (Before span) (Before span) where
  trans := by
    rintro a b c ⟨ha, hab, _⟩ ⟨_, hbc, hc⟩
    exact ⟨ha, by omega, hc⟩

def Ascending (span : α → Interval) (table : List α) : Prop :=
  table.IsChain (Before span)

instance (table : List α) : Decidable (Ascending span table) :=
  inferInstanceAs (Decidable (table.IsChain (Before span)))

namespace SearchTree

theorem find?_eq_none_of_missed {code : Nat} {table : List α}
    (h : ∀ e ∈ table, code < (span e).first ∨ (span e).last < code) :
    table.find? (fun e => (span e).covers code) = none := by
  apply List.find?_eq_none.mpr
  intro e he hcovers
  rw [Interval.covers_iff] at hcovers
  rcases h e he with hlow | hhigh
  · omega
  · omega

theorem find?_append_cons {code : Nat} {below above : List α} {entry : α}
    (h : (below ++ entry :: above).Pairwise (Before span)) :
    (below ++ entry :: above).find? (fun e => (span e).covers code) =
      if code < (span entry).first then below.find? fun e => (span e).covers code
      else if code ≤ (span entry).last then some entry
      else above.find? fun e => (span e).covers code := by
  rcases List.pairwise_append.mp h with ⟨_, hright, hbelow⟩
  have habove := (List.pairwise_cons.mp hright).left
  rw [List.find?_append]
  split
  · rename_i hlow
    have hnone : (entry :: above).find? (fun e => (span e).covers code) = none := by
      apply find?_eq_none_of_missed
      intro e he
      rcases List.mem_cons.mp he with rfl | he
      · exact Or.inl hlow
      · rcases habove e he with ⟨hentry, hnext, _⟩
        exact Or.inl (by omega)
    rw [hnone, Option.or_none]
  · rename_i hfirst
    have hnone : below.find? (fun e => (span e).covers code) = none := by
      apply find?_eq_none_of_missed
      intro e he
      rcases hbelow e he entry List.mem_cons_self with ⟨_, hnext, _⟩
      exact Or.inr (by omega)
    rw [hnone, Option.none_or]
    split
    · rename_i hlast
      exact List.find?_cons_of_pos (Interval.covers_iff.mpr ⟨by omega, hlast⟩)
    · rename_i hlast
      apply List.find?_cons_of_neg
      rw [Interval.covers_iff]
      omega

theorem find?_ofTable_of_pairwise {code depth : Nat} {table : List α}
    (hsize : table.length < Nat.pow 2 depth) (horder : table.Pairwise (Before span)) :
    (ofTable depth table).find? span code = table.find? fun e => (span e).covers code := by
  induction depth generalizing table with
  | zero =>
      have hnil : table = [] := List.length_eq_zero_iff.mp (Nat.lt_one_iff.mp hsize)
      rw [hnil]
      rfl
  | succ depth ih =>
      have hdouble : Nat.pow 2 (depth + 1) = Nat.pow 2 depth * 2 := rfl
      have hsplit := List.take_append_drop (table.length / 2) table
      rw [ofTable]
      split
      · rename_i hdrop
        have hlength : table.length ≤ table.length / 2 := List.drop_eq_nil_iff.mp hdrop
        have hnil : table = [] := List.length_eq_zero_iff.mp (by omega)
        rw [hnil]
        rfl
      · rename_i entry rest hdrop
        have hlength : (table.drop (table.length / 2)).length = rest.length + 1 := by
          rw [hdrop, List.length_cons]
        rw [List.length_drop] at hlength
        rw [hdrop] at hsplit
        rw [← hsplit] at horder
        rcases List.pairwise_append.mp horder with ⟨hbelow, habove, _⟩
        have hleft := ih (by rw [List.length_take]; omega) hbelow
        have hright := ih (by omega : rest.length < Nat.pow 2 depth)
          (List.pairwise_cons.mp habove).right
        rw [find?, hleft, hright, ← find?_append_cons horder, hsplit]

/-- Searching by halving finds what going through the table finds. -/
theorem find?_ofTable {code depth : Nat} {table : List α}
    (hsize : table.length < Nat.pow 2 depth) (horder : Ascending span table) :
    (ofTable depth table).find? span code = table.find? fun e => (span e).covers code :=
  find?_ofTable_of_pairwise hsize (List.isChain_iff_pairwise.mp horder)

def misses (span : α → Interval) (first last : Nat) : SearchTree α → Bool
  | .leaf => true
  | .node left entry right =>
    if last < (span entry).first then left.misses span first last
    else if (span entry).first ≤ first ∧ (span entry).last < first then
      right.misses span first last
    else false

theorem find?_eq_none_of_misses {first last code : Nat} {tree : SearchTree α}
    (h : tree.misses span first last = true) (hfirst : first ≤ code) (hlast : code ≤ last) :
    tree.find? span code = none := by
  induction tree with
  | leaf => rfl
  | node left entry right ihleft ihright =>
      rw [misses] at h
      rw [find?]
      split at h
      · rw [if_pos (by omega)]
        exact ihleft h
      · split at h
        · rw [if_neg (by omega), if_neg (by omega)]
          exact ihright h
        · cases h

end SearchTree

/-!
# The tables of the library
-/

theorem find?_combiningClassTree (code : Nat) :
    combiningClassTree.find? Prod.fst code =
      combiningClasses.find? fun entry => entry.1.covers code :=
  SearchTree.find?_ofTable (by decide +kernel) (by decide +kernel)

theorem exists_entry_of_combiningClass_pos {c : Char} (h : 0 < combiningClass c) :
    ∃ entry ∈ combiningClasses,
      c.toNat ∈ List.range' entry.1.first (entry.1.last + 1 - entry.1.first) := by
  unfold combiningClass at h
  cases hfind : combiningClassTree.find? Prod.fst c.toNat with
  | none =>
      rw [hfind] at h
      exact absurd h (Nat.lt_irrefl 0)
  | some entry =>
      rw [find?_combiningClassTree] at hfind
      have hcovers := List.find?_some hfind
      exact ⟨entry, List.mem_of_find?_eq_some hfind, Interval.mem_range'_of_covers hcovers⟩

theorem find?_runTree (code : Nat) :
    Decomposition.runTree.find? Decomposition.Run.interval code =
      Decomposition.runs.find? fun run => run.interval.covers code :=
  SearchTree.find?_ofTable (by decide +kernel) (by decide +kernel)

theorem find?_lowerTree (code : Nat) :
    lowerTree.find? CaseSpan.interval code =
      lowerSpans.find? fun entry => entry.interval.covers code :=
  SearchTree.find?_ofTable (by decide +kernel) (by decide +kernel)

theorem find?_upperTree (code : Nat) :
    upperTree.find? CaseSpan.interval code =
      upperSpans.find? fun entry => entry.interval.covers code :=
  SearchTree.find?_ofTable (by decide +kernel) (by decide +kernel)
end Unicode
end Polyquery
