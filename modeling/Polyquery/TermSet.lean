import Polyquery.Text

/-!
# Sets of terms

A set of terms is a list in strictly increasing order of code points, so equal sets are equal lists and
are reported in one order.
-/

namespace Polyquery

structure TermSet where
  terms : List Text
  increasing : terms.Pairwise (· < ·)
  deriving DecidableEq

namespace TermSet

/-- Puts a term into its place in an increasing list. -/
def insertInto (term : Text) : List Text → List Text
  | [] => [term]
  | first :: rest =>
    if term < first then term :: first :: rest
    else if term = first then first :: rest
    else first :: insertInto term rest

theorem mem_insertInto {term other : Text} {terms : List Text} :
    other ∈ insertInto term terms ↔ other = term ∨ other ∈ terms := by
  induction terms with
  | nil => simp [insertInto]
  | cons first rest ih =>
    unfold insertInto
    split
    · simp
    · split
      · rename_i h
        subst h
        simp
      · simp only [List.mem_cons, ih]
        constructor
        · rintro (h | h | h) <;> simp [h]
        · rintro (h | h | h) <;> simp [h]

theorem lt_of_not_lt {left right : Text} (h : ¬left < right) (hne : left ≠ right) : right < left :=
  Classical.byContradiction fun hnot =>
    hne (Std.Trichotomous.trichotomous (r := (· < · : Text → Text → Prop)) left right h hnot)

theorem pairwise_insertInto {term : Text} {terms : List Text} (h : terms.Pairwise (· < ·)) :
    (insertInto term terms).Pairwise (· < ·) := by
  induction terms with
  | nil => simp [insertInto]
  | cons first rest ih =>
    have hfirst : ∀ other ∈ rest, first < other := fun _ hmem => List.rel_of_pairwise_cons h hmem
    have hrest := h.of_cons
    unfold insertInto
    split
    · rename_i hlt
      refine List.Pairwise.cons ?_ h
      intro other hother
      rcases List.mem_cons.1 hother with rfl | hmem
      · exact hlt
      · exact List.lt_trans hlt (hfirst _ hmem)
    · rename_i hnlt
      split
      · exact h
      · rename_i hne
        refine List.Pairwise.cons ?_ (ih hrest)
        intro other hother
        rcases mem_insertInto.1 hother with rfl | hmem
        · exact lt_of_not_lt hnlt hne
        · exact hfirst _ hmem

instance : EmptyCollection TermSet :=
  ⟨{ terms := [], increasing := List.Pairwise.nil }⟩

instance : Membership Text TermSet :=
  ⟨fun set term => term ∈ set.terms⟩

instance (term : Text) (set : TermSet) : Decidable (term ∈ set) :=
  inferInstanceAs (Decidable (term ∈ set.terms))

def insert (set : TermSet) (term : Text) : TermSet :=
  { terms := insertInto term set.terms, increasing := pairwise_insertInto set.increasing }

def ofList (terms : List Text) : TermSet :=
  terms.foldl insert ∅

theorem mem_def {term : Text} {set : TermSet} : term ∈ set ↔ term ∈ set.terms :=
  Iff.rfl

@[simp] theorem not_mem_empty {term : Text} : ¬term ∈ (∅ : TermSet) :=
  List.not_mem_nil

@[simp] theorem mem_insert {set : TermSet} {term other : Text} :
    other ∈ set.insert term ↔ other = term ∨ other ∈ set :=
  mem_insertInto

theorem mem_foldl_insert {set : TermSet} {other : Text} {terms : List Text} :
    other ∈ terms.foldl insert set ↔ other ∈ set ∨ other ∈ terms := by
  induction terms generalizing set with
  | nil => simp
  | cons term rest ih =>
    rw [List.foldl_cons, ih, mem_insert, List.mem_cons]
    constructor
    · rintro ((h | h) | h) <;> simp [h]
    · rintro (h | h | h) <;> simp [h]

@[simp] theorem mem_ofList {other : Text} {terms : List Text} :
    other ∈ ofList terms ↔ other ∈ terms := by
  simp [ofList, mem_foldl_insert]

end TermSet
end Polyquery
