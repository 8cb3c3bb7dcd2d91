import Mathlib.Data.List.Nodup
import Polyquery.Distinct

/-!
# First occurrences in joined lists

Of two lists that are joined, the second one adds the entries whose keys the first one lacks.  So a list that
brings nothing new is absorbed, and entries that come in another order are kept in another order.
-/

namespace Polyquery

variable {α β : Type} [DecidableEq β]

theorem distinctBy_append (key : α → β) (left right : List α) :
    distinctBy key (left ++ right) =
      distinctBy key left ++
        (distinctBy key right).filter fun b =>
          left.all fun earlier => decide (key earlier ≠ key b) := by
  induction left with
  | nil => simp [distinctBy]
  | cons a left ih =>
      rw [List.cons_append, distinctBy, distinctBy, ih, List.filter_append, List.filter_filter,
        List.cons_append]
      have hkept : ∀ b, (decide (key b ≠ key a) &&
          left.all fun earlier => decide (key earlier ≠ key b)) =
            (a :: left).all fun earlier => decide (key earlier ≠ key b) := by
        intro b
        rw [List.all_cons, decide_eq_decide.mpr (ne_comm (a := key b))]
      simp only [hkept]

theorem distinctBy_concat (key : α → β) (entries : List α) (a : α) :
    distinctBy key (entries ++ [a]) =
      distinctBy key entries ++
        if entries.all fun earlier => decide (key earlier ≠ key a) then [a] else [] := by
  have hsingle : distinctBy key [a] = [a] := rfl
  rw [distinctBy_append, hsingle, List.filter_singleton]
  cases entries.all fun earlier => decide (key earlier ≠ key a) with
  | false => rfl
  | true => rfl

variable {entries others left right : List β}

theorem distinctBy_append_of_subset (h : right ⊆ left) :
    distinctBy id (left ++ right) = distinctBy id left := by
  have hnone : ((distinctBy id right).filter fun b =>
      left.all fun earlier => decide (id earlier ≠ id b)) = [] := by
    apply List.filter_eq_nil_iff.mpr
    intro b hb hnew
    have hmem : b ∈ left := h (mem_distinctBy_id.mp hb)
    exact of_decide_eq_true (List.all_eq_true.mp hnew b hmem) rfl
  rw [distinctBy_append, hnone, List.append_nil]

theorem distinctBy_append_congr (h : distinctBy id entries = distinctBy id others)
    (rest : List β) : distinctBy id (entries ++ rest) = distinctBy id (others ++ rest) := by
  have hmem : ∀ b, b ∈ entries ↔ b ∈ others := by
    intro b
    rw [← mem_distinctBy_id, h, mem_distinctBy_id]
  rw [distinctBy_append, distinctBy_append, h]
  congr 1
  apply List.filter_congr
  intro b _
  rw [Bool.eq_iff_iff, List.all_eq_true, List.all_eq_true]
  simp only [hmem]

theorem filter_distinctBy (p : β → Bool) (entries : List β) :
    (distinctBy id entries).filter p = distinctBy id (entries.filter p) := by
  induction entries with
  | nil => rfl
  | cons a rest ih =>
      rw [distinctBy, List.filter_cons, List.filter_cons, List.filter_filter]
      cases ha : p a with
      | true =>
          rw [if_pos rfl, if_pos rfl, distinctBy, ← ih, List.filter_filter]
          simp only [Bool.and_comm]
      | false =>
          rw [if_neg Bool.false_ne_true, if_neg Bool.false_ne_true, ← ih]
          apply List.filter_congr
          intro b _
          cases hb : p b with
          | false => rfl
          | true =>
              have hne : b ≠ a := by
                intro heq
                rw [heq, ha] at hb
                cases hb
              rw [Bool.true_and]
              exact decide_eq_true hne

theorem distinctBy_map_distinctBy {γ : Type} [DecidableEq γ] (f : β → γ) (entries : List β) :
    distinctBy id ((distinctBy id entries).map f) = distinctBy id (entries.map f) := by
  induction entries with
  | nil => rfl
  | cons a rest ih =>
      -- behind `a`, only entries with another image are looked at, and these differ from `a`
      have hbehind : ∀ others : List β,
          ((others.filter fun b => decide (id b ≠ id a)).map f).filter
            (fun c => decide (id c ≠ id (f a))) =
              (others.map f).filter fun c => decide (id c ≠ id (f a)) := by
        intro others
        rw [List.filter_map, List.filter_map, List.filter_filter]
        congr 1
        apply List.filter_congr
        intro b _
        by_cases hf : f b = f a
        · simp [hf]
        · have hne : b ≠ a := fun heq => hf (congrArg f heq)
          simp [hf, hne]
      rw [distinctBy, List.map_cons, List.map_cons, distinctBy, distinctBy,
        filter_distinctBy _ (List.map f _), hbehind, ← filter_distinctBy, ih]

theorem nodup_distinctBy (entries : List β) : (distinctBy id entries).Nodup :=
  pairwise_distinctBy id entries

theorem perm_distinctBy (h : entries.Perm others) :
    (distinctBy id entries).Perm (distinctBy id others) := by
  rw [List.perm_ext_iff_of_nodup (nodup_distinctBy entries) (nodup_distinctBy others)]
  intro b
  rw [mem_distinctBy_id, mem_distinctBy_id, h.mem_iff]

end Polyquery
