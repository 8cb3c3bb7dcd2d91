import Polyquery.Query.Basic

/-!
# Nodes of a query

The terms of a query are leaves of its tree, and its conjunctions are nodes of it, at any depth.  The lists
that are gathered from a tree hold these leaves and conjunctions, and no others.
-/

namespace Polyquery

namespace Leaf

def query : Leaf → Query
  | ⟨false, term⟩ => .filter term
  | ⟨true, term⟩ => .not term

theorem query_inj {a b : Leaf} : a.query = b.query ↔ a = b := by
  rcases a with ⟨negated, term⟩
  rcases b with ⟨otherNegated, other⟩
  cases negated <;> cases otherNegated <;> simp [query]

theorem query_ne_and {leaf : Leaf} {left right : Query} : leaf.query ≠ .and left right := by
  rcases leaf with ⟨negated, term⟩
  cases negated <;> exact Query.noConfusion

theorem query_ne_or {leaf : Leaf} {left right : Query} : leaf.query ≠ .or left right := by
  rcases leaf with ⟨negated, term⟩
  cases negated <;> exact Query.noConfusion

theorem leaves_query (leaf : Leaf) : leaf.query.leaves = [leaf] := by
  rcases leaf with ⟨negated, term⟩
  cases negated with
  | false => rfl
  | true => rfl

theorem conjunctions_query (leaf : Leaf) : leaf.query.conjunctions = [] := by
  rcases leaf with ⟨negated, term⟩
  cases negated with
  | false => rfl
  | true => rfl

end Leaf

namespace Query

/-- The node is the query itself or stands somewhere below it. -/
inductive Within (node : Query) : Query → Prop where
  | root : Within node node
  | andLeft {left right : Query} (h : Within node left) : Within node (.and left right)
  | andRight {left right : Query} (h : Within node right) : Within node (.and left right)
  | orLeft {left right : Query} (h : Within node left) : Within node (.or left right)
  | orRight {left right : Query} (h : Within node right) : Within node (.or left right)

def Mentions (query : Query) (term : Text) : Prop :=
  (filter term).Within query ∨ (not term).Within query

/-!
# What stands below a node
-/

variable {node left right query : Query} {leaf : Leaf}

theorem within_and :
    node.Within (.and left right) ↔
      node = .and left right ∨ node.Within left ∨ node.Within right := by
  constructor
  · intro h
    cases h with
    | root => exact Or.inl rfl
    | andLeft h => exact Or.inr (Or.inl h)
    | andRight h => exact Or.inr (Or.inr h)
  · intro h
    rcases h with rfl | h | h
    · exact .root
    · exact .andLeft h
    · exact .andRight h

theorem within_or :
    node.Within (.or left right) ↔
      node = .or left right ∨ node.Within left ∨ node.Within right := by
  constructor
  · intro h
    cases h with
    | root => exact Or.inl rfl
    | orLeft h => exact Or.inr (Or.inl h)
    | orRight h => exact Or.inr (Or.inr h)
  · intro h
    rcases h with rfl | h | h
    · exact .root
    · exact .orLeft h
    · exact .orRight h

theorem within_leaf : node.Within leaf.query ↔ node = leaf.query := by
  constructor
  · intro h
    rcases leaf with ⟨negated, term⟩
    cases negated with
    | false =>
        cases h
        rfl
    | true =>
        cases h
        rfl
  · intro heq
    subst heq
    exact .root

/-!
# Leaves and conjunctions
-/

theorem mem_leaves_query (other : Leaf) :
    leaf ∈ other.query.leaves ↔ leaf.query.Within other.query := by
  rw [Leaf.leaves_query, List.mem_singleton, within_leaf, Leaf.query_inj]

theorem mem_leaves : leaf ∈ query.leaves ↔ leaf.query.Within query := by
  induction query with
  | filter term => exact mem_leaves_query ⟨false, term⟩
  | not term => exact mem_leaves_query ⟨true, term⟩
  | and left right ihleft ihright =>
      rw [leaves, List.mem_append, ihleft, ihright, within_and, or_iff_right Leaf.query_ne_and]
  | or left right ihleft ihright =>
      rw [leaves, List.mem_append, ihleft, ihright, within_or, or_iff_right Leaf.query_ne_or]

theorem mem_map_term_leaves {term : Text} :
    term ∈ query.leaves.map Leaf.term ↔ query.Mentions term := by
  rw [List.mem_map, Mentions]
  constructor
  · intro h
    rcases h with ⟨⟨negated, word⟩, hleaf, rfl⟩
    cases negated with
    | false => exact Or.inl (mem_leaves.mp hleaf)
    | true => exact Or.inr (mem_leaves.mp hleaf)
  · intro h
    rcases h with h | h
    · exact ⟨⟨false, term⟩, mem_leaves.mpr h, rfl⟩
    · exact ⟨⟨true, term⟩, mem_leaves.mpr h, rfl⟩

theorem mem_conjunctions_query (leaf : Leaf) {gathered : List Leaf} :
    gathered ∈ leaf.query.conjunctions ↔
      ∃ left right, (and left right).Within leaf.query ∧ (and left right).leaves = gathered := by
  rw [Leaf.conjunctions_query]
  constructor
  · intro h
    cases h
  · intro h
    rcases h with ⟨left, right, h, _⟩
    exact absurd (within_leaf.mp h).symm Leaf.query_ne_and

theorem mem_conjunctions {gathered : List Leaf} :
    gathered ∈ query.conjunctions ↔
      ∃ left right, (and left right).Within query ∧ (and left right).leaves = gathered := by
  induction query with
  | filter term => exact mem_conjunctions_query ⟨false, term⟩
  | not term => exact mem_conjunctions_query ⟨true, term⟩
  | and left right ihleft ihright =>
      rw [conjunctions, List.mem_cons, List.mem_append, ihleft, ihright]
      simp only [within_and, or_and_right, exists_or, and.injEq]
      constructor
      · intro h
        rcases h with rfl | h | h
        · exact Or.inl ⟨left, right, ⟨rfl, rfl⟩, rfl⟩
        · exact Or.inr (Or.inl h)
        · exact Or.inr (Or.inr h)
      · intro h
        rcases h with ⟨_, _, ⟨rfl, rfl⟩, rfl⟩ | h | h
        · exact Or.inl rfl
        · exact Or.inr (Or.inl h)
        · exact Or.inr (Or.inr h)
  | or left right ihleft ihright =>
      rw [conjunctions, List.mem_append, ihleft, ihright]
      simp only [within_or, or_and_right, exists_or, reduceCtorEq, false_or]

theorem subset_leaves_of_mem_conjunctions {gathered : List Leaf}
    (h : gathered ∈ query.conjunctions) : gathered ⊆ query.leaves := by
  induction query with
  | filter term => cases h
  | not term => cases h
  | and left right ihleft ihright =>
      rw [leaves]
      rcases List.mem_cons.mp h with heq | h
      · rw [heq]
        exact List.Subset.refl _
      · rcases List.mem_append.mp h with h | h
        · exact List.subset_append_of_subset_left _ (ihleft h)
        · exact List.subset_append_of_subset_right _ (ihright h)
  | or left right ihleft ihright =>
      rw [leaves]
      rcases List.mem_append.mp h with h | h
      · exact List.subset_append_of_subset_left _ (ihleft h)
      · exact List.subset_append_of_subset_right _ (ihright h)

end Query
end Polyquery
