import Polyquery.Proofs.Query.Alternatives
import Polyquery.Proofs.Query.Nodes

/-!
# Flat and left-nested queries

The written form of a query has no parentheses, so it can tell apart only the trees without a disjunction
below a conjunction.  Such a flat tree is a disjunction of conjunctions of leaves, in one of several ways to
group them.  Grouped to the left it is determined by its leaves: it is the tree that they fold to, first
within each conjunction and then over the conjunctions.
-/

namespace Polyquery

def Leaf.holds (assignment : Text → Bool) (leaf : Leaf) : Bool :=
  if leaf.negated then !assignment leaf.term else assignment leaf.term

namespace Query

/-- The truth value of a query when each term has one. -/
def holds (assignment : Text → Bool) : Query → Bool
  | .filter term => assignment term
  | .not term => !assignment term
  | .and left right => left.holds assignment && right.holds assignment
  | .or left right => left.holds assignment || right.holds assignment

def isLeaf : Query → Bool
  | .filter _ => true
  | .not _ => true
  | .and _ _ => false
  | .or _ _ => false

def orFree : Query → Bool
  | .filter _ => true
  | .not _ => true
  | .and left right => left.orFree && right.orFree
  | .or _ _ => false

/-- No disjunction stands below a conjunction. -/
def flat : Query → Bool
  | .filter _ => true
  | .not _ => true
  | .and left right => left.orFree && right.orFree
  | .or left right => left.flat && right.flat

/-- What a conjunction joins to the conjunctions before it is a leaf, and what a disjunction joins to the
disjunctions before it is free of disjunctions. -/
def leftNested : Query → Bool
  | .filter _ => true
  | .not _ => true
  | .and left right => left.orFree && left.leftNested && right.isLeaf
  | .or left right => left.leftNested && right.orFree && right.leftNested

/-- The leaves of the outermost operands of disjunction, operand by operand. -/
def alternatives : Query → List (List Leaf)
  | .filter term => [[⟨false, term⟩]]
  | .not term => [[⟨true, term⟩]]
  | .and left right => [left.leaves ++ right.leaves]
  | .or left right => left.alternatives ++ right.alternatives

variable {query left right : Query}

theorem isLeaf_query (leaf : Leaf) : leaf.query.isLeaf = true := by
  rcases leaf with ⟨negated, term⟩
  cases negated with
  | false => rfl
  | true => rfl

theorem exists_leaf_of_isLeaf (h : query.isLeaf = true) : ∃ leaf : Leaf, leaf.query = query := by
  cases query with
  | filter term => exact ⟨⟨false, term⟩, rfl⟩
  | not term => exact ⟨⟨true, term⟩, rfl⟩
  | and left right => cases h
  | or left right => cases h

theorem orFree_of_isLeaf (h : query.isLeaf = true) : query.orFree = true := by
  cases query with
  | filter term => rfl
  | not term => rfl
  | and left right => cases h
  | or left right => cases h

theorem leftNested_of_isLeaf (h : query.isLeaf = true) : query.leftNested = true := by
  cases query with
  | filter term => rfl
  | not term => rfl
  | and left right => cases h
  | or left right => cases h

theorem flat_of_orFree (h : query.orFree = true) : query.flat = true := by
  cases query with
  | filter term => rfl
  | not term => rfl
  | and left right => exact h
  | or left right => cases h

/-- Above its trees without disjunctions, a flat tree has disjunctions only. -/
theorem flat_induction {motive : (query : Query) → query.flat = true → Prop}
    (orFree : ∀ (query : Query) (h : query.orFree = true), motive query (flat_of_orFree h))
    (or : ∀ (left right : Query) (hleft : left.flat = true) (hright : right.flat = true),
      motive left hleft → motive right hright →
        motive (.or left right) (Bool.and_eq_true_iff.mpr ⟨hleft, hright⟩))
    (query : Query) (h : query.flat = true) : motive query h := by
  induction query with
  | filter term => exact orFree (.filter term) rfl
  | not term => exact orFree (.not term) rfl
  | and left right _ _ => exact orFree (.and left right) h
  | or left right ihleft ihright =>
      rcases Bool.and_eq_true_iff.mp h with ⟨hleft, hright⟩
      exact or left right hleft hright (ihleft hleft) (ihright hright)

theorem flat_of_leftNested (h : query.leftNested = true) : query.flat = true := by
  induction query with
  | filter term => rfl
  | not term => rfl
  | and left right _ _ =>
      simp only [leftNested, Bool.and_eq_true] at h
      rw [flat, h.left.left, orFree_of_isLeaf h.right, Bool.and_self]
  | or left right ihleft ihright =>
      simp only [leftNested, Bool.and_eq_true] at h
      rw [flat, ihleft h.left.left, ihright h.right, Bool.and_self]

/-!
# Alternatives of a tree
-/

theorem alternatives_of_orFree (h : query.orFree = true) : query.alternatives = [query.leaves] := by
  cases query with
  | filter term => rfl
  | not term => rfl
  | and left right => rfl
  | or left right => cases h

theorem flatten_alternatives (query : Query) : query.alternatives.flatten = query.leaves := by
  induction query with
  | filter term => rfl
  | not term => rfl
  | and left right _ _ => rw [alternatives, leaves, List.flatten_singleton]
  | or left right ihleft ihright =>
      rw [alternatives, leaves, List.flatten_append, ihleft, ihright]

theorem holds_of_orFree (assignment : Text → Bool) (h : query.orFree = true) :
    query.holds assignment = query.leaves.all (Leaf.holds assignment) := by
  induction query with
  | filter term => simp [holds, leaves, Leaf.holds]
  | not term => simp [holds, leaves, Leaf.holds]
  | and left right ihleft ihright =>
      rw [orFree, Bool.and_eq_true] at h
      rw [holds, leaves, List.all_append, ihleft h.left, ihright h.right]
  | or left right _ _ => cases h

theorem holds_of_flat (assignment : Text → Bool) (h : query.flat = true) :
    query.holds assignment =
      query.alternatives.any fun run => run.all (Leaf.holds assignment) := by
  induction query, h using flat_induction with
  | orFree query horFree =>
      rw [holds_of_orFree assignment horFree, alternatives_of_orFree horFree]
      simp
  | or left right _ _ ihleft ihright =>
      rw [holds, alternatives, List.any_append, ihleft, ihright]

/-- In a flat tree the terms that some conjunction gathers together are those of one alternative.  An
alternative without a conjunction has only one term. -/
theorem exists_conjunction_iff (h : query.flat = true) {x y : Text} (hne : x ≠ y) :
    (∃ gathered ∈ query.conjunctions, x ∈ gathered.map Leaf.term ∧ y ∈ gathered.map Leaf.term) ↔
      ∃ run ∈ query.alternatives, x ∈ run.map Leaf.term ∧ y ∈ run.map Leaf.term := by
  have hleaf : ∀ leaf : Leaf,
      (∃ gathered ∈ leaf.query.conjunctions,
        x ∈ gathered.map Leaf.term ∧ y ∈ gathered.map Leaf.term) ↔
        ∃ run ∈ [[leaf]], x ∈ run.map Leaf.term ∧ y ∈ run.map Leaf.term := by
    intro leaf
    rw [leaf.conjunctions_query]
    constructor
    · intro hgathered
      rcases hgathered with ⟨gathered, hmem, _⟩
      cases hmem
    · intro hrun
      rcases hrun with ⟨run, hmem, hx, hy⟩
      cases List.mem_singleton.mp hmem
      rw [List.map_singleton, List.mem_singleton] at hx hy
      exact absurd (hx.trans hy.symm) hne
  induction query with
  | filter term => exact hleaf ⟨false, term⟩
  | not term => exact hleaf ⟨true, term⟩
  | and left right _ _ =>
      constructor
      · intro hgathered
        rcases hgathered with ⟨gathered, hmem, hx, hy⟩
        have hsubset := List.map_subset Leaf.term (subset_leaves_of_mem_conjunctions hmem)
        exact ⟨_, List.mem_singleton_self _, hsubset hx, hsubset hy⟩
      · intro hrun
        rcases hrun with ⟨run, hmem, hboth⟩
        cases List.mem_singleton.mp hmem
        exact ⟨_, List.mem_cons_self, hboth⟩
  | or left right ihleft ihright =>
      rw [flat, Bool.and_eq_true] at h
      simp only [conjunctions, alternatives, List.mem_append, or_and_right, exists_or,
        ihleft h.left, ihright h.right]

/-!
# Trees of leaves

Folding leaves to the left gives left-nested trees.
-/

theorem leftFold_concat (join : Query → Query → Query) (queries : List Query) (last : Query)
    (hne : queries ≠ []) :
    leftFold join (queries ++ [last]) =
      (leftFold join queries).map fun before => join before last := by
  cases queries with
  | nil => exact absurd rfl hne
  | cons first rest =>
      rw [List.cons_append, leftFold, leftFold, List.foldl_concat]
      rfl

theorem leaves_ne_nil (query : Query) : query.leaves ≠ [] := by
  induction query with
  | filter term => exact List.cons_ne_nil _ _
  | not term => exact List.cons_ne_nil _ _
  | and left right ihleft _ => exact List.append_ne_nil_of_left_ne_nil ihleft _
  | or left right ihleft _ => exact List.append_ne_nil_of_left_ne_nil ihleft _

theorem alternatives_ne_nil (query : Query) : query.alternatives ≠ [] := by
  induction query with
  | filter term => exact List.cons_ne_nil _ _
  | not term => exact List.cons_ne_nil _ _
  | and left right _ _ => exact List.cons_ne_nil _ _
  | or left right ihleft _ => exact List.append_ne_nil_of_left_ne_nil ihleft _

theorem leftFold_and {run : List Leaf} (h : leftFold .and (run.map Leaf.query) = some query) :
    query.orFree = true ∧ query.leftNested = true ∧ query.leaves = run := by
  induction run using List.reverseRecOn generalizing query with
  | nil => cases h
  | append_singleton run leaf ih =>
      have hleaf := isLeaf_query leaf
      rw [List.map_append, List.map_singleton] at h
      by_cases hrun : run = []
      · subst hrun
        cases h
        exact ⟨orFree_of_isLeaf hleaf, leftNested_of_isLeaf hleaf, leaf.leaves_query⟩
      · rw [leftFold_concat _ _ _ (by simpa using hrun), Option.map_eq_some_iff] at h
        rcases h with ⟨before, hbefore, rfl⟩
        rcases ih hbefore with ⟨horFree, hnested, hleaves⟩
        refine ⟨?_, ?_, ?_⟩
        · rw [orFree, horFree, orFree_of_isLeaf hleaf, Bool.and_self]
        · rw [leftNested, horFree, hnested, hleaf, Bool.and_self, Bool.and_self]
        · rw [leaves, hleaves, leaf.leaves_query]

theorem ofAlternatives_singleton (run : List Query) :
    ofAlternatives [run] = leftFold .and run := by
  rw [ofAlternatives, List.mapM_cons]
  cases leftFold .and run with
  | none => rfl
  | some query => rfl

theorem ofAlternatives_concat {runs : List (List Query)} (hne : runs ≠ []) (run : List Query) :
    ofAlternatives (runs ++ [run]) =
      (ofAlternatives runs).bind fun before => (leftFold .and run).map fun last => .or before last := by
  rw [ofAlternatives, ofAlternatives, List.mapM_append, List.mapM_cons]
  cases hruns : runs.mapM (leftFold .and) with
  | none => rfl
  | some queries =>
      have hqueries : queries ≠ [] := by
        intro hnil
        subst hnil
        cases runs with
        | nil => exact hne rfl
        | cons first rest => simp [List.mapM_cons, Option.bind_eq_some_iff] at hruns
      cases leftFold .and run with
      | none => simp
      | some last =>
          have hconcat := leftFold_concat .or queries last hqueries
          rw [Option.map_eq_bind] at hconcat
          exact hconcat

theorem leftNested_of_ofAlternatives {runs : List (List Leaf)}
    (h : ofAlternatives (runs.map fun run => run.map Leaf.query) = some query) :
    query.leftNested = true ∧ query.alternatives = runs := by
  -- The runs are folded to the left, so the last of them is the right operand at the root.
  induction runs using List.reverseRecOn generalizing query with
  | nil => cases h
  | append_singleton runs run ih =>
      rw [List.map_append, List.map_singleton] at h
      by_cases hruns : runs = []
      · subst hruns
        rw [List.map_nil, List.nil_append, ofAlternatives_singleton] at h
        rcases leftFold_and h with ⟨horFree, hnested, hleaves⟩
        rw [alternatives_of_orFree horFree, hleaves]
        exact ⟨hnested, rfl⟩
      · rw [ofAlternatives_concat (by simpa using hruns), Option.bind_eq_some_iff] at h
        rcases h with ⟨before, hbefore, h⟩
        rw [Option.map_eq_some_iff] at h
        rcases h with ⟨last, hlast, rfl⟩
        rcases ih hbefore with ⟨hbeforeNested, halternatives⟩
        rcases leftFold_and hlast with ⟨horFree, hnested, hleaves⟩
        constructor
        · rw [leftNested, hbeforeNested, horFree, hnested, Bool.and_self, Bool.and_self]
        · rw [alternatives, halternatives, alternatives_of_orFree horFree, hleaves]

theorem leftFold_leaves (horFree : query.orFree = true) (hnested : query.leftNested = true) :
    leftFold .and (query.leaves.map Leaf.query) = some query := by
  induction query with
  | filter term => rfl
  | not term => rfl
  | and left right ihleft _ =>
      simp only [leftNested, Bool.and_eq_true] at hnested
      rcases exists_leaf_of_isLeaf hnested.right with ⟨leaf, rfl⟩
      have hne : left.leaves.map Leaf.query ≠ [] := by
        simpa using left.leaves_ne_nil
      rw [leaves, leaf.leaves_query, List.map_append, List.map_singleton,
        leftFold_concat _ _ _ hne, ihleft hnested.left.left hnested.left.right]
      rfl
  | or left right _ _ => cases horFree

theorem ofAlternatives_alternatives (h : query.leftNested = true) :
    ofAlternatives (query.alternatives.map fun run => run.map Leaf.query) = some query := by
  have hflat := flat_of_leftNested h
  induction query, hflat using flat_induction with
  | orFree query horFree =>
      rw [alternatives_of_orFree horFree, List.map_singleton, ofAlternatives_singleton]
      exact leftFold_leaves horFree h
  | or left right _ _ ihleft _ =>
      simp only [leftNested, Bool.and_eq_true] at h
      have hne : (left.alternatives.map fun run => run.map Leaf.query) ≠ [] := by
        simpa using left.alternatives_ne_nil
      rw [alternatives, alternatives_of_orFree h.left.right, List.map_append, List.map_singleton,
        ofAlternatives_concat hne, ihleft h.left.left, leftFold_leaves h.left.right h.right]
      rfl

end Query
end Polyquery
