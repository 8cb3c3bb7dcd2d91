/-!
# First occurrences

Reports name every finding once.  Of several entries with one key, the first is kept and the order of
those kept does not change.
-/

namespace Polyquery

variable {α β : Type} [DecidableEq β]

/-- The entries whose key has not occurred before. -/
def distinctBy (key : α → β) : List α → List α
  | [] => []
  | a :: rest => a :: (distinctBy key rest).filter fun b => decide (key b ≠ key a)

theorem mem_of_mem_distinctBy {key : α → β} {a : α} {entries : List α}
    (h : a ∈ distinctBy key entries) : a ∈ entries := by
  induction entries with
  | nil => exact h
  | cons b rest ih =>
    rcases List.mem_cons.1 h with rfl | h
    · exact List.mem_cons_self
    · exact List.mem_cons_of_mem b (ih (List.mem_filter.1 h).1)

theorem distinctBy_sublist (key : α → β) (entries : List α) :
    (distinctBy key entries).Sublist entries := by
  induction entries with
  | nil => exact List.Sublist.refl []
  | cons a rest ih => exact (List.filter_sublist.trans ih).cons_cons a

theorem pairwise_distinctBy (key : α → β) (entries : List α) :
    (distinctBy key entries).Pairwise fun a b => key a ≠ key b := by
  induction entries with
  | nil => exact List.Pairwise.nil
  | cons a rest ih =>
    refine List.Pairwise.cons ?_ (ih.filter _)
    intro b hb
    have hne := (List.mem_filter.1 hb).2
    exact (of_decide_eq_true hne).symm

theorem exists_mem_distinctBy {key : α → β} {a : α} {entries : List α} (h : a ∈ entries) :
    ∃ b ∈ distinctBy key entries, key b = key a := by
  induction entries with
  | nil => cases h
  | cons c rest ih =>
    by_cases hc : key c = key a
    · exact ⟨c, List.mem_cons_self, hc⟩
    · rcases List.mem_cons.1 h with rfl | h
      · exact absurd rfl hc
      · obtain ⟨b, hb, hkey⟩ := ih h
        refine ⟨b, List.mem_cons_of_mem c (List.mem_filter.2 ⟨hb, ?_⟩), hkey⟩
        exact decide_eq_true (hkey ▸ Ne.symm hc)

theorem mem_distinctBy_id {b : β} {entries : List β} : b ∈ distinctBy id entries ↔ b ∈ entries := by
  constructor
  · exact mem_of_mem_distinctBy
  · intro h
    have hkept : ∃ c ∈ distinctBy id entries, c = b := exists_mem_distinctBy h
    obtain ⟨c, hc, rfl⟩ := hkept
    exact hc

end Polyquery
