import Mathlib.Data.List.Sort
import Polyquery.Proofs.Conflict.Extraction
import Polyquery.Proofs.Distinct

/-!
# Rearranged queries

A conjunction is searched with all terms below it, so their arrangement does not matter, and whatever clashes
below a conjunction inside it has been reported already.  What remains of a tree is the terms of its outermost
conjunctions, in the order in which these stand.
-/

namespace Polyquery

/-!
# Sets of terms
-/

namespace TermSet

theorem eq_of_mem_iff {set other : TermSet} (h : ∀ term, term ∈ set ↔ term ∈ other) :
    set = other := by
  have hirrefl : Std.Irrefl fun left right : Text => left < right := ⟨List.lt_irrefl⟩
  have hantisymm : Std.Antisymm fun left right : Text => left < right :=
    ⟨fun _ _ hlt hgt => absurd hgt (List.lt_asymm hlt)⟩
  have hterms : set.terms = other.terms :=
    List.Pairwise.eq_of_mem_iff set.increasing other.increasing h
  cases set
  cases other
  cases hterms
  rfl

theorem ofList_eq_of_perm {terms others : List Text} (h : terms.Perm others) :
    ofList terms = ofList others := by
  apply eq_of_mem_iff
  intro term
  rw [mem_ofList, mem_ofList, h.mem_iff]

end TermSet

namespace Query

variable {query other left right : Query} {rules : ConflictRules}

/-!
# Outermost conjunctions
-/

/-- The terms of each conjunction that stands below no other one. -/
def outermost : Query → List TermSet
  | .filter _ => []
  | .not _ => []
  | .and left right => [.ofList ((left.leaves ++ right.leaves).map Leaf.term)]
  | .or left right => left.outermost ++ right.outermost

def clashes (rules : ConflictRules) (gathered : List Leaf) : List Conflict :=
  Conflict.underConjunction rules (.ofList (gathered.map Leaf.term))

theorem clashes_subset {gathered leaves : List Leaf} (h : gathered ⊆ leaves) :
    clashes rules gathered ⊆ clashes rules leaves := by
  have hterm : ∀ term, term ∈ TermSet.ofList (gathered.map Leaf.term) →
      term ∈ TermSet.ofList (leaves.map Leaf.term) := by
    intro term hmem
    rw [TermSet.mem_ofList] at hmem ⊢
    exact List.map_subset Leaf.term h hmem
  intro conflict hconflict
  rcases Conflict.mem_underConjunction.mp hconflict with
    ⟨category, hcategory, x, y, ⟨hlt, hx, hy⟩, rfl⟩
  exact Conflict.mem_underConjunction.mpr ⟨category, hcategory, x, y,
    ⟨hlt, ⟨hterm x hx.left, hx.right⟩, ⟨hterm y hy.left, hy.right⟩⟩, rfl⟩

theorem clashes_conjunctions_subset (left right : Query) :
    (left.conjunctions ++ right.conjunctions).flatMap (clashes rules) ⊆
      clashes rules (left.leaves ++ right.leaves) := by
  intro conflict hconflict
  rcases List.mem_flatMap.mp hconflict with ⟨gathered, hgathered, hclash⟩
  rcases List.mem_append.mp hgathered with hleft | hright
  · exact clashes_subset (List.subset_append_of_subset_left _
      (subset_leaves_of_mem_conjunctions hleft)) hclash
  · exact clashes_subset (List.subset_append_of_subset_right _
      (subset_leaves_of_mem_conjunctions hright)) hclash

/-- Behind any reports, the search of all conjunctions adds what the outermost ones add. -/
theorem distinctBy_append_conjunctions (reports : List Conflict) (query : Query) :
    distinctBy id (reports ++ query.conjunctions.flatMap (clashes rules)) =
      distinctBy id (reports ++ query.outermost.flatMap (Conflict.underConjunction rules)) := by
  induction query generalizing reports with
  | filter term => rfl
  | not term => rfl
  | and left right _ _ =>
      rw [conjunctions, outermost, List.flatMap_cons, List.flatMap_singleton, ← List.append_assoc]
      apply distinctBy_append_of_subset
      exact List.subset_append_of_subset_right _ (clashes_conjunctions_subset left right)
  | or left right ihleft ihright =>
      rw [conjunctions, outermost, List.flatMap_append, List.flatMap_append, ← List.append_assoc,
        ← List.append_assoc, ihright]
      exact distinctBy_append_congr (ihleft reports) _

theorem conflicts_eq_outermost (query : Query) (rules : ConflictRules) :
    (query.extract rules).conflicts =
      distinctBy id (Conflict.amongPresent rules query.included ++
        query.outermost.flatMap (Conflict.underConjunction rules)) :=
  distinctBy_append_conjunctions _ query

/-!
# Rearrangement
-/

/-- The trees differ in the order of operands and in the grouping of operands of one kind.  The operands of a
disjunction change places only beneath a conjunction, above the tree or inside it. -/
inductive Rearranged : (beneath : Bool) → Query → Query → Prop where
  | refl {beneath : Bool} (query : Query) : Rearranged beneath query query
  | symm {beneath : Bool} {query other : Query} (h : Rearranged beneath query other) :
      Rearranged beneath other query
  | trans {beneath : Bool} {query middle other : Query} (h : Rearranged beneath query middle)
      (hnext : Rearranged beneath middle other) : Rearranged beneath query other
  | swapAnd {beneath : Bool} (left right : Query) :
      Rearranged beneath (.and left right) (.and right left)
  | swapOr (left right : Query) : Rearranged true (.or left right) (.or right left)
  | regroupAnd {beneath : Bool} (first second third : Query) :
      Rearranged beneath (.and (.and first second) third) (.and first (.and second third))
  | regroupOr {beneath : Bool} (first second third : Query) :
      Rearranged beneath (.or (.or first second) third) (.or first (.or second third))
  | and {beneath : Bool} {left right newLeft newRight : Query} (hleft : Rearranged true left newLeft)
      (hright : Rearranged true right newRight) :
      Rearranged beneath (.and left right) (.and newLeft newRight)
  | or {beneath : Bool} {left right newLeft newRight : Query}
      (hleft : Rearranged beneath left newLeft) (hright : Rearranged beneath right newRight) :
      Rearranged beneath (.or left right) (.or newLeft newRight)

/-- The trees are rearranged, and operands of disjunctions that stand beneath no conjunction may have changed
places as well. -/
inductive Reordered : Query → Query → Prop where
  | rearranged {query other : Query} (h : Rearranged false query other) : Reordered query other
  | trans {query middle other : Query} (h : Reordered query middle)
      (hnext : Reordered middle other) : Reordered query other
  | swapOr (left right : Query) : Reordered (.or left right) (.or right left)
  | or {left right newLeft newRight : Query} (hleft : Reordered left newLeft)
      (hright : Reordered right newRight) : Reordered (.or left right) (.or newLeft newRight)

theorem Rearranged.perm_leaves {beneath : Bool} (h : Rearranged beneath query other) :
    query.leaves.Perm other.leaves := by
  induction h with
  | refl query => exact List.Perm.refl _
  | symm _ ih => exact ih.symm
  | trans _ _ ih ihnext => exact ih.trans ihnext
  | swapAnd left right => exact List.perm_append_comm
  | swapOr left right => exact List.perm_append_comm
  | regroupAnd first second third => exact List.Perm.of_eq (List.append_assoc _ _ _)
  | regroupOr first second third => exact List.Perm.of_eq (List.append_assoc _ _ _)
  | and _ _ ihleft ihright => exact ihleft.append ihright
  | or _ _ ihleft ihright => exact ihleft.append ihright

theorem Reordered.perm_leaves (h : Reordered query other) : query.leaves.Perm other.leaves := by
  induction h with
  | rearranged h => exact h.perm_leaves
  | trans _ _ ih ihnext => exact ih.trans ihnext
  | swapOr left right => exact List.perm_append_comm
  | or _ _ ihleft ihright => exact ihleft.append ihright

theorem included_eq_of_perm (h : query.leaves.Perm other.leaves) :
    query.included = other.included :=
  TermSet.ofList_eq_of_perm ((h.filter _).map Leaf.term)

theorem excluded_eq_of_perm (h : query.leaves.Perm other.leaves) :
    query.excluded = other.excluded :=
  TermSet.ofList_eq_of_perm ((h.filter _).map Leaf.term)

/-- One rearrangement inside a conjunction keeps its terms, and one outside keeps the conjunctions in
place. -/
theorem Rearranged.outermost_eq {beneath : Bool} (h : Rearranged beneath query other)
    (houtside : beneath = false) : query.outermost = other.outermost := by
  induction h with
  | refl query => rfl
  | symm _ ih => exact (ih houtside).symm
  | trans _ _ ih ihnext => exact (ih houtside).trans (ihnext houtside)
  | swapAnd left right =>
      rw [outermost, outermost,
        TermSet.ofList_eq_of_perm (List.Perm.map Leaf.term List.perm_append_comm)]
  | swapOr left right => cases houtside
  | regroupAnd first second third =>
      rw [outermost, outermost, leaves, leaves, List.append_assoc]
  | regroupOr first second third =>
      rw [outermost, outermost, outermost, outermost, List.append_assoc]
  | and hleft hright _ _ =>
      have hleaves := hleft.perm_leaves.append hright.perm_leaves
      rw [outermost, outermost, TermSet.ofList_eq_of_perm (hleaves.map Leaf.term)]
  | or _ _ ihleft ihright => rw [outermost, outermost, ihleft houtside, ihright houtside]

theorem Reordered.perm_outermost (h : Reordered query other) :
    query.outermost.Perm other.outermost := by
  induction h with
  | rearranged h => exact List.Perm.of_eq (h.outermost_eq rfl)
  | trans _ _ ih ihnext => exact ih.trans ihnext
  | swapOr left right => exact List.perm_append_comm
  | or _ _ ihleft ihright => exact ihleft.append ihright

/-- The order and the grouping of operands do not show in what is extracted from a query.  If operands of a
disjunction change places beneath no conjunction, the conflicts may be reported in another order. -/
theorem extract_rearranged (query other : Query) (rules : ConflictRules) :
    (Rearranged false query other → query.extract rules = other.extract rules) ∧
    (Reordered query other →
      (query.extract rules).included = (other.extract rules).included ∧
      (query.extract rules).excluded = (other.extract rules).excluded ∧
      (query.extract rules).conflicts.Perm (other.extract rules).conflicts) := by
  constructor
  · intro h
    have hincluded := included_eq_of_perm h.perm_leaves
    have hexcluded := excluded_eq_of_perm h.perm_leaves
    have hconflicts : query.conflicts rules = other.conflicts rules := by
      have hquery := conflicts_eq_outermost query rules
      have hother := conflicts_eq_outermost other rules
      rw [hincluded, h.outermost_eq rfl, ← hother] at hquery
      exact hquery
    rw [extract, extract, hincluded, hexcluded, hconflicts]
  · intro h
    have hincluded := included_eq_of_perm h.perm_leaves
    refine ⟨hincluded, excluded_eq_of_perm h.perm_leaves, ?_⟩
    rw [conflicts_eq_outermost, conflicts_eq_outermost, hincluded]
    exact perm_distinctBy ((h.perm_outermost.flatMap_right _).append_left _)

theorem extract_rearranged_ratings :
    let query := Query.or
      (.and (.filter "3*".toList) (.or (.not "shadow".toList) (.filter "4*".toList)))
      (.and (.and (.filter "male".toList) (.filter "lucky".toList)) (.not "female".toList))
    let inside := Query.or
      (.and (.or (.filter "4*".toList) (.not "shadow".toList)) (.filter "3*".toList))
      (.and (.filter "male".toList) (.and (.filter "lucky".toList) (.not "female".toList)))
    let around := Query.or
      (.and (.filter "male".toList) (.and (.filter "lucky".toList) (.not "female".toList)))
      (.and (.or (.filter "4*".toList) (.not "shadow".toList)) (.filter "3*".toList))
    query.extract .standard = inside.extract .standard ∧
      (query.extract .standard).conflicts.Perm (around.extract .standard).conflicts ∧
      (query.extract .standard).conflicts ≠ (around.extract .standard).conflicts := by
  intro query inside around
  have hinside : Rearranged false query inside := by
    refine .or ?_ (.regroupAnd _ _ _)
    exact .trans (.and (.refl _) (.swapOr _ _)) (.swapAnd _ _)
  have haround : Reordered query around := .trans (.rearranged hinside) (.swapOr _ _)
  refine ⟨(extract_rearranged query inside .standard).left hinside,
    ((extract_rearranged query around .standard).right haround).right.right, ?_⟩
  decide +kernel

end Query
end Polyquery
