import Polyquery.Conflict.Extraction
import Polyquery.Proofs.Query.Nodes

/-!
# Reported conflicts

A query is searched for conflicts in two ways: exclusive states among all terms it asks for, and members of
one category below each of its conjunctions.  The report holds every conflict that the rules describe and no
other, each with its terms in increasing order, the exclusive states before the categories.
-/

namespace Polyquery

/-- In lower case, the two states of the pair are the two terms. -/
def ExclusivePair.Joins (pair : ExclusivePair) (x y : Text) : Prop :=
  (Text.lower pair.left = x ∧ Text.lower pair.right = y) ∨
    (Text.lower pair.left = y ∧ Text.lower pair.right = x)

def ConflictRules.Excludes (rules : ConflictRules) (x y : Text) : Prop :=
  ∃ pair ∈ rules.exclusive, pair.Joins x y

/-- In lower case, both terms are members of some category with the name. -/
def ConflictRules.Groups (rules : ConflictRules) (name x y : Text) : Prop :=
  ∃ category ∈ rules.categories, category.name = name ∧
    x ∈ category.members.map Text.lower ∧ y ∈ category.members.map Text.lower

instance (pair : ExclusivePair) (x y : Text) : Decidable (pair.Joins x y) :=
  inferInstanceAs (Decidable ((Text.lower pair.left = x ∧ Text.lower pair.right = y) ∨
    (Text.lower pair.left = y ∧ Text.lower pair.right = x)))

instance (rules : ConflictRules) (x y : Text) : Decidable (rules.Excludes x y) :=
  inferInstanceAs (Decidable (∃ pair ∈ rules.exclusive, pair.Joins x y))

instance (rules : ConflictRules) (name x y : Text) : Decidable (rules.Groups name x y) :=
  inferInstanceAs (Decidable (∃ category ∈ rules.categories, category.name = name ∧
    x ∈ category.members.map Text.lower ∧ y ∈ category.members.map Text.lower))

def Extraction.Reports (extraction : Extraction) (kind : ConflictKind) (terms : List Text) : Prop :=
  ∃ conflict ∈ extraction.conflicts, conflict.kind = kind ∧ conflict.terms = terms

theorem Category.contains_iff {category : Category} {term : Text} :
    category.contains term = true ↔ term ∈ category.members.map Text.lower := by
  simp [contains]

namespace Conflict

variable {rules : ConflictRules} {present : TermSet} {conflict : Conflict}

/-!
# Pairs
-/

theorem sortedPair_of_lt {left right : Text} (h : left < right) :
    sortedPair left right = [left, right] := by
  rw [sortedPair, if_neg (List.lt_asymm h)]

theorem sortedPair_of_gt {left right : Text} (h : right < left) :
    sortedPair left right = [right, left] := by
  rw [sortedPair, if_pos h]

theorem sortedPair_eq_iff {left right x y : Text} (hne : left ≠ right) :
    sortedPair left right = [x, y] ↔
      x < y ∧ ((left = x ∧ right = y) ∨ (left = y ∧ right = x)) := by
  by_cases hlt : left < right
  · rw [sortedPair_of_lt hlt]
    constructor
    · intro h
      cases h
      exact ⟨hlt, Or.inl ⟨rfl, rfl⟩⟩
    · intro h
      rcases h with ⟨hxy, ⟨rfl, rfl⟩ | ⟨rfl, rfl⟩⟩
      · rfl
      · exact absurd hxy (List.lt_asymm hlt)
  · have hgt : right < left := TermSet.lt_of_not_lt hlt hne
    rw [sortedPair_of_gt hgt]
    constructor
    · intro h
      cases h
      exact ⟨hgt, Or.inr ⟨rfl, rfl⟩⟩
    · intro h
      rcases h with ⟨hxy, ⟨rfl, rfl⟩ | ⟨rfl, rfl⟩⟩
      · exact absurd hxy hlt
      · rfl

theorem mem_pairs {terms : List Text} (h : terms.Pairwise (· < ·)) {x y : Text} :
    (x, y) ∈ pairs terms ↔ x < y ∧ x ∈ terms ∧ y ∈ terms := by
  induction terms with
  | nil => simp [pairs]
  | cons first rest ih =>
      rcases List.pairwise_cons.mp h with ⟨hfirst, hrest⟩
      rw [pairs, List.mem_append, ih hrest, List.mem_map, List.mem_cons, List.mem_cons]
      constructor
      · intro h
        rcases h with ⟨second, hsecond, heq⟩ | ⟨hlt, hx, hy⟩
        · cases heq
          exact ⟨hfirst y hsecond, Or.inl rfl, Or.inr hsecond⟩
        · exact ⟨hlt, Or.inr hx, Or.inr hy⟩
      · intro h
        rcases h with ⟨hlt, rfl | hx, rfl | hy⟩
        · exact absurd hlt (List.lt_irrefl y)
        · exact Or.inl ⟨y, hy, rfl⟩
        · exact absurd hlt (List.lt_asymm (hfirst x hx))
        · exact Or.inr ⟨hlt, hx, hy⟩

/-!
# The two searches
-/

theorem mem_amongPresent :
    conflict ∈ amongPresent rules present ↔
      ∃ pair ∈ rules.exclusive, (Text.lower pair.left ≠ Text.lower pair.right ∧
        Text.lower pair.left ∈ present ∧ Text.lower pair.right ∈ present) ∧
          exclusive (Text.lower pair.left) (Text.lower pair.right) = conflict := by
  rw [amongPresent, List.mem_filterMap]
  simp only [Option.ite_none_right_eq_some, Option.some.injEq]

theorem mem_underConjunction :
    conflict ∈ underConjunction rules present ↔
      ∃ category ∈ rules.categories, ∃ x y, (x < y ∧
        (x ∈ present ∧ category.contains x = true) ∧
          (y ∈ present ∧ category.contains y = true)) ∧ members category x y = conflict := by
  have hpairs : ∀ (category : Category) (x y : Text),
      (x, y) ∈ pairs (present.terms.filter category.contains) ↔ x < y ∧
        (x ∈ present ∧ category.contains x = true) ∧
          (y ∈ present ∧ category.contains y = true) := by
    intro category x y
    rw [mem_pairs (present.increasing.filter _), List.mem_filter, List.mem_filter]
    rfl
  rw [underConjunction, List.mem_flatMap]
  simp only [List.mem_map, Prod.exists, hpairs]

theorem exists_terms_of_mem_amongPresent (h : conflict ∈ amongPresent rules present) :
    conflict.kind = .globallyExclusive ∧ ∃ x y, conflict.terms = [x, y] ∧ x < y := by
  rcases mem_amongPresent.mp h with ⟨pair, _, ⟨hne, _⟩, rfl⟩
  refine ⟨rfl, ?_⟩
  by_cases hlt : Text.lower pair.left < Text.lower pair.right
  · exact ⟨_, _, sortedPair_of_lt hlt, hlt⟩
  · have hgt := TermSet.lt_of_not_lt hlt hne
    exact ⟨_, _, sortedPair_of_gt hgt, hgt⟩

theorem exists_terms_of_mem_underConjunction (h : conflict ∈ underConjunction rules present) :
    (∃ name, conflict.kind = .sameCategory name) ∧ ∃ x y, conflict.terms = [x, y] ∧ x < y := by
  rcases mem_underConjunction.mp h with ⟨category, _, x, y, ⟨hlt, _⟩, rfl⟩
  exact ⟨⟨category.name, rfl⟩, x, y, sortedPair_of_lt hlt, hlt⟩

theorem exists_mem_amongPresent {x y : Text} :
    (∃ conflict ∈ amongPresent rules present, conflict.terms = [x, y]) ↔
      x < y ∧ rules.Excludes x y ∧ x ∈ present ∧ y ∈ present := by
  constructor
  · intro h
    rcases h with ⟨conflict, hmem, hterms⟩
    rcases mem_amongPresent.mp hmem with ⟨pair, hpair, ⟨hne, hleft, hright⟩, rfl⟩
    rcases (sortedPair_eq_iff hne).mp hterms with ⟨hlt, hjoins⟩
    refine ⟨hlt, ⟨pair, hpair, hjoins⟩, ?_⟩
    rcases hjoins with ⟨rfl, rfl⟩ | ⟨rfl, rfl⟩
    · exact ⟨hleft, hright⟩
    · exact ⟨hright, hleft⟩
  · intro h
    rcases h with ⟨hlt, ⟨pair, hpair, hjoins⟩, hx, hy⟩
    have hne : x ≠ y := by
      intro heq
      subst heq
      exact List.lt_irrefl x hlt
    have hstates : Text.lower pair.left ≠ Text.lower pair.right ∧
        Text.lower pair.left ∈ present ∧ Text.lower pair.right ∈ present := by
      rcases hjoins with ⟨rfl, rfl⟩ | ⟨rfl, rfl⟩
      · exact ⟨hne, hx, hy⟩
      · exact ⟨hne.symm, hy, hx⟩
    exact ⟨_, mem_amongPresent.mpr ⟨pair, hpair, hstates, rfl⟩,
      (sortedPair_eq_iff hstates.left).mpr ⟨hlt, hjoins⟩⟩

theorem exists_mem_underConjunction {name x y : Text} :
    (∃ conflict ∈ underConjunction rules present,
      conflict.kind = .sameCategory name ∧ conflict.terms = [x, y]) ↔
      x < y ∧ rules.Groups name x y ∧ x ∈ present ∧ y ∈ present := by
  constructor
  · intro h
    rcases h with ⟨conflict, hmem, hkind, hterms⟩
    rcases mem_underConjunction.mp hmem with ⟨category, hcategory, a, b, ⟨hlt, ha, hb⟩, rfl⟩
    have hpair : [a, b] = [x, y] := (sortedPair_of_lt hlt).symm.trans hterms
    cases hkind
    cases hpair
    exact ⟨hlt, ⟨category, hcategory, rfl, Category.contains_iff.mp ha.right,
      Category.contains_iff.mp hb.right⟩, ha.left, hb.left⟩
  · intro h
    rcases h with ⟨hlt, ⟨category, hcategory, rfl, hx, hy⟩, hxpresent, hypresent⟩
    refine ⟨members category x y, mem_underConjunction.mpr ⟨category, hcategory, x, y, ?_, rfl⟩,
      rfl, sortedPair_of_lt hlt⟩
    exact ⟨hlt, ⟨hxpresent, Category.contains_iff.mpr hx⟩,
      ⟨hypresent, Category.contains_iff.mpr hy⟩⟩

end Conflict

/-!
# The report of a query
-/

namespace Query

variable {query : Query} {rules : ConflictRules} {term : Text}

theorem mem_map_term_filter_leaves {p : Leaf → Bool} {negated : Bool}
    (hp : ∀ leaf, p leaf = true ↔ leaf.negated = negated) :
    term ∈ (query.leaves.filter p).map Leaf.term ↔ (Leaf.query ⟨negated, term⟩).Within query := by
  rw [List.mem_map]
  constructor
  · intro h
    rcases h with ⟨⟨sign, word⟩, hleaf, rfl⟩
    rcases List.mem_filter.mp hleaf with ⟨hleaf, hsign⟩
    cases (hp _).mp hsign
    exact mem_leaves.mp hleaf
  · intro h
    exact ⟨⟨negated, term⟩, List.mem_filter.mpr ⟨mem_leaves.mpr h, (hp _).mpr rfl⟩, rfl⟩

theorem mem_included : term ∈ query.included ↔ (filter term).Within query := by
  rw [included, TermSet.mem_ofList]
  exact @mem_map_term_filter_leaves query term _ false (by simp)

theorem mem_excluded : term ∈ query.excluded ↔ (not term).Within query := by
  rw [excluded, TermSet.mem_ofList]
  exact @mem_map_term_filter_leaves query term _ true (by simp)

theorem mem_conflicts {conflict : Conflict} :
    conflict ∈ (query.extract rules).conflicts ↔
      conflict ∈ Conflict.amongPresent rules query.included ∨
        ∃ gathered ∈ query.conjunctions,
          conflict ∈ Conflict.underConjunction rules (.ofList (gathered.map Leaf.term)) := by
  rw [extract, conflicts, mem_distinctBy_id, List.mem_append, List.mem_flatMap]

theorem reports_globallyExclusive {x y : Text} :
    (query.extract rules).Reports .globallyExclusive [x, y] ↔
      x < y ∧ rules.Excludes x y ∧ x ∈ query.included ∧ y ∈ query.included := by
  rw [← Conflict.exists_mem_amongPresent]
  constructor
  · intro h
    rcases h with ⟨conflict, hmem, hkind, hterms⟩
    rcases mem_conflicts.mp hmem with hmem | ⟨gathered, _, hmem⟩
    · exact ⟨conflict, hmem, hterms⟩
    · rcases Conflict.exists_terms_of_mem_underConjunction hmem with ⟨⟨name, hname⟩, _⟩
      cases hkind.symm.trans hname
  · intro h
    rcases h with ⟨conflict, hmem, hterms⟩
    exact ⟨conflict, mem_conflicts.mpr (Or.inl hmem),
      (Conflict.exists_terms_of_mem_amongPresent hmem).left, hterms⟩

theorem reports_sameCategory {name x y : Text} :
    (query.extract rules).Reports (.sameCategory name) [x, y] ↔
      x < y ∧ rules.Groups name x y ∧ ∃ gathered ∈ query.conjunctions,
        x ∈ gathered.map Leaf.term ∧ y ∈ gathered.map Leaf.term := by
  constructor
  · intro h
    rcases h with ⟨conflict, hmem, hkind, hterms⟩
    rcases mem_conflicts.mp hmem with hmem | ⟨gathered, hgathered, hmem⟩
    · cases hkind.symm.trans (Conflict.exists_terms_of_mem_amongPresent hmem).left
    · rcases Conflict.exists_mem_underConjunction.mp ⟨conflict, hmem, hkind, hterms⟩ with
        ⟨hlt, hgroups, hx, hy⟩
      exact ⟨hlt, hgroups, gathered, hgathered, TermSet.mem_ofList.mp hx,
        TermSet.mem_ofList.mp hy⟩
  · intro h
    rcases h with ⟨hlt, hgroups, gathered, hgathered, hx, hy⟩
    rcases Conflict.exists_mem_underConjunction.mpr ⟨hlt, hgroups, TermSet.mem_ofList.mpr hx,
      TermSet.mem_ofList.mpr hy⟩ with ⟨conflict, hmem, hkind, hterms⟩
    exact ⟨conflict, mem_conflicts.mpr (Or.inr ⟨gathered, hgathered, hmem⟩), hkind, hterms⟩

theorem kind_and_terms_of_mem_conflicts {conflict : Conflict}
    (h : conflict ∈ (query.extract rules).conflicts) :
    (conflict.kind = .globallyExclusive ∨ ∃ name, conflict.kind = .sameCategory name) ∧
      ∃ x y, conflict.terms = [x, y] ∧ x < y := by
  rcases mem_conflicts.mp h with hmem | ⟨gathered, _, hmem⟩
  · rcases Conflict.exists_terms_of_mem_amongPresent hmem with ⟨hkind, hterms⟩
    exact ⟨Or.inl hkind, hterms⟩
  · rcases Conflict.exists_terms_of_mem_underConjunction hmem with ⟨hkind, hterms⟩
    exact ⟨Or.inr hkind, hterms⟩

theorem pairwise_kind_conflicts (query : Query) (rules : ConflictRules) :
    (query.extract rules).conflicts.Pairwise fun earlier later =>
      later.kind = .globallyExclusive → earlier.kind = .globallyExclusive := by
  rw [extract, conflicts]
  refine List.Pairwise.sublist (distinctBy_sublist id _) (List.pairwise_append.mpr ⟨?_, ?_, ?_⟩)
  · apply List.pairwise_of_forall_mem_list
    intro earlier hearlier _ _ _
    exact (Conflict.exists_terms_of_mem_amongPresent hearlier).left
  · apply List.pairwise_of_forall_mem_list
    intro _ _ later hlater hkind
    rcases List.mem_flatMap.mp hlater with ⟨_, _, hlater⟩
    rcases Conflict.exists_terms_of_mem_underConjunction hlater with ⟨⟨_, hname⟩, _⟩
    cases hkind.symm.trans hname
  · intro earlier hearlier _ _ _
    exact (Conflict.exists_terms_of_mem_amongPresent hearlier).left

/-- On every tree, whatever its form, the report holds the terms of the leaves, and exactly the conflicts that
the rules describe. -/
theorem extract_reports_exactly (query : Query) (rules : ConflictRules) :
    (∀ term, term ∈ (query.extract rules).included ↔ (filter term).Within query) ∧
    (∀ term, term ∈ (query.extract rules).excluded ↔ (not term).Within query) ∧
    (∀ x y, (query.extract rules).Reports .globallyExclusive [x, y] ↔
      x < y ∧ rules.Excludes x y ∧ (filter x).Within query ∧ (filter y).Within query) ∧
    (∀ name x y, (query.extract rules).Reports (.sameCategory name) [x, y] ↔
      x < y ∧ rules.Groups name x y ∧ ∃ left right, (and left right).Within query ∧
        (and left right).Mentions x ∧ (and left right).Mentions y) ∧
    (∀ conflict ∈ (query.extract rules).conflicts,
      (conflict.kind = .globallyExclusive ∨ ∃ name, conflict.kind = .sameCategory name) ∧
        ∃ x y, conflict.terms = [x, y] ∧ x < y) ∧
    (query.extract rules).conflicts.Pairwise fun earlier later =>
      later.kind = .globallyExclusive → earlier.kind = .globallyExclusive := by
  refine ⟨fun _ => mem_included, fun _ => mem_excluded, ?_, ?_, ?_, ?_⟩
  · intro x y
    rw [reports_globallyExclusive, mem_included, mem_included]
  · intro name x y
    rw [reports_sameCategory]
    constructor
    · intro h
      rcases h with ⟨hlt, hgroups, gathered, hgathered, hx, hy⟩
      rcases mem_conjunctions.mp hgathered with ⟨left, right, hnode, rfl⟩
      exact ⟨hlt, hgroups, left, right, hnode, mem_map_term_leaves.mp hx,
        mem_map_term_leaves.mp hy⟩
    · intro h
      rcases h with ⟨hlt, hgroups, left, right, hnode, hx, hy⟩
      exact ⟨hlt, hgroups, _, mem_conjunctions.mpr ⟨left, right, hnode, rfl⟩,
        mem_map_term_leaves.mpr hx, mem_map_term_leaves.mpr hy⟩
  · intro conflict hconflict
    exact kind_and_terms_of_mem_conflicts hconflict
  · exact pairwise_kind_conflicts query rules

theorem extract_reports_exactly_nested :
    let query := Query.and (.not "3*".toList)
      (.or (.filter "shadow".toList) (.and (.filter "4*".toList) (.filter "purified".toList)))
    let conflict := Conflict.members
      { name := "stars".toList, members := ["0*".toList, "1*".toList, "2*".toList, "3*".toList,
        "4*".toList] } "3*".toList "4*".toList
    conflict ∈ (query.extract .standard).conflicts ∧
      (conflict.kind = .globallyExclusive ∨ ∃ name, conflict.kind = .sameCategory name) ∧
        ∃ x y, conflict.terms = [x, y] ∧ x < y := by
  intro query conflict
  have hconflict : conflict ∈ (query.extract .standard).conflicts := by
    decide +kernel
  exact ⟨hconflict, (extract_reports_exactly query .standard).right.right.right.right.left conflict
    hconflict⟩

end Query
end Polyquery
