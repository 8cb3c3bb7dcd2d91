import Mathlib.Data.List.Forall2
import Mathlib.Data.List.Pairwise
import Polyquery.Proofs.Conflict.Extraction
import Polyquery.Proofs.Distinct

/-!
# Repeated reports

A conflict is reported once, but conflicts are told apart by their sentences as well, and the sentence about
an exclusive pair names the states in the order of the rule.  Two rules with the same states in opposite
orders therefore give two reports of one finding, and a report changes when the sides of its rule are
exchanged.  Which findings are reported, and in which order they come up first, does not depend on the sides.
-/

namespace Polyquery

/-- What is reported, apart from the sentence. -/
def Conflict.finding (conflict : Conflict) : ConflictKind × List Text :=
  (conflict.kind, conflict.terms)

/-!
# Exclusive pairs and their sides
-/

namespace ExclusivePair

variable {pair other : ExclusivePair} {present : TermSet}

def swapped (pair : ExclusivePair) : ExclusivePair :=
  { left := pair.right, right := pair.left }

def report (pair : ExclusivePair) : Conflict :=
  .exclusive (Text.lower pair.left) (Text.lower pair.right)

def Applies (pair : ExclusivePair) (present : TermSet) : Prop :=
  Text.lower pair.left ≠ Text.lower pair.right ∧
    Text.lower pair.left ∈ present ∧ Text.lower pair.right ∈ present

instance (pair : ExclusivePair) (present : TermSet) : Decidable (pair.Applies present) :=
  inferInstanceAs (Decidable (Text.lower pair.left ≠ Text.lower pair.right ∧
    Text.lower pair.left ∈ present ∧ Text.lower pair.right ∈ present))

/-- The pairs name the same states in opposite orders. -/
def Opposes (pair other : ExclusivePair) : Prop :=
  Text.lower pair.left = Text.lower other.right ∧ Text.lower pair.right = Text.lower other.left

instance (pair other : ExclusivePair) : Decidable (pair.Opposes other) :=
  inferInstanceAs (Decidable (_ ∧ _))

theorem applies_swapped : pair.swapped.Applies present ↔ pair.Applies present := by
  rw [Applies, Applies, swapped, ne_comm, and_comm (a := Text.lower pair.right ∈ present)]

theorem report_of_opposes (h : pair.Opposes other) : other.report = pair.swapped.report := by
  rw [report, report, swapped, h.left, h.right]

theorem Opposes.applies (h : pair.Opposes other) (hpair : pair.Applies present) :
    other.Applies present := by
  rcases hpair with ⟨hne, hleft, hright⟩
  rw [h.left, h.right] at hne
  rw [h.left] at hleft
  rw [h.right] at hright
  exact ⟨hne.symm, hright, hleft⟩

end ExclusivePair

namespace Conflict

theorem sortedPair_comm (left right : Text) : sortedPair left right = sortedPair right left := by
  by_cases heq : left = right
  · rw [heq]
  · by_cases hlt : left < right
    · rw [sortedPair_of_lt hlt, sortedPair_of_gt hlt]
    · have hgt := TermSet.lt_of_not_lt hlt heq
      rw [sortedPair_of_gt hgt, sortedPair_of_lt hgt]

theorem sortedPair_eq_sortedPair {left right x y : Text} (hne : left ≠ right) (hxy : x ≠ y)
    (h : sortedPair left right = sortedPair x y) :
    (left = x ∧ right = y) ∨ (left = y ∧ right = x) := by
  by_cases hlt : x < y
  · rw [sortedPair_of_lt hlt] at h
    exact ((sortedPair_eq_iff hne).mp h).right
  · rw [sortedPair_of_gt (TermSet.lt_of_not_lt hlt hxy)] at h
    exact ((sortedPair_eq_iff hne).mp h).right.symm

theorem finding_report_swapped (pair : ExclusivePair) :
    pair.swapped.report.finding = pair.report.finding := by
  simp only [finding, ExclusivePair.report, ExclusivePair.swapped, exclusive,
    sortedPair_comm (Text.lower pair.right)]

theorem sides_eq_or_opposes {pair other : ExclusivePair} {present : TermSet}
    (hpair : pair.Applies present) (hother : other.Applies present)
    (h : pair.report.finding = other.report.finding) :
    (Text.lower pair.left = Text.lower other.left ∧
      Text.lower pair.right = Text.lower other.right) ∨ pair.Opposes other :=
  sortedPair_eq_sortedPair hpair.left hother.left (congrArg Prod.snd h)

end Conflict

structure ConflictRules.SidesExchanged (rules other : ConflictRules) : Prop where
  categories : other.categories = rules.categories
  exclusive : List.Forall₂ (fun pair turned => turned = pair ∨ turned = pair.swapped)
    rules.exclusive other.exclusive

namespace Conflict

variable {present : TermSet}

def reports (pairs : List ExclusivePair) (present : TermSet) : List Conflict :=
  pairs.filterMap fun pair => if pair.Applies present then some pair.report else none

theorem mem_reports {pairs : List ExclusivePair} {conflict : Conflict} :
    conflict ∈ reports pairs present ↔
      ∃ pair ∈ pairs, pair.Applies present ∧ pair.report = conflict := by
  rw [reports, List.mem_filterMap]
  simp only [Option.ite_none_right_eq_some, Option.some.injEq]

theorem reports_cons (pair : ExclusivePair) (pairs : List ExclusivePair) (present : TermSet) :
    reports (pair :: pairs) present =
      if pair.Applies present then pair.report :: reports pairs present
      else reports pairs present := by
  rw [reports, List.filterMap_cons]
  by_cases h : pair.Applies present
  · simp only [if_pos h]
    rfl
  · simp only [if_neg h]
    rfl

theorem map_finding_reports {pairs turned : List ExclusivePair}
    (h : List.Forall₂ (fun pair turned => turned = pair ∨ turned = pair.swapped) pairs turned) :
    (reports turned present).map finding = (reports pairs present).map finding := by
  induction h with
  | nil => rfl
  | @cons pair turn _ _ hturn _ ih =>
      have hsame : (turn.Applies present ↔ pair.Applies present) ∧
          turn.report.finding = pair.report.finding := by
        rcases hturn with rfl | rfl
        · exact ⟨Iff.rfl, rfl⟩
        · exact ⟨ExclusivePair.applies_swapped, finding_report_swapped pair⟩
      rw [reports_cons, reports_cons]
      by_cases happlies : pair.Applies present
      · rw [if_pos (hsame.left.mpr happlies), if_pos happlies, List.map_cons, List.map_cons, ih,
          hsame.right]
      · rw [if_neg (mt hsame.left.mp happlies), if_neg happlies, ih]

theorem reports_eq_of_even {pairs turned : List ExclusivePair}
    (h : List.Forall₂ (fun pair turned => turned = pair ∨ turned = pair.swapped) pairs turned)
    (heven : ∀ pair ∈ pairs, pair.Applies present → pair.swapped.report = pair.report) :
    reports turned present = reports pairs present := by
  induction h with
  | nil => rfl
  | @cons pair turn _ _ hturn _ ih =>
      rcases List.forall_mem_cons.mp heven with ⟨hpair, hrest⟩
      rw [reports_cons, reports_cons, ih hrest]
      rcases hturn with rfl | rfl
      · rfl
      · by_cases happlies : pair.Applies present
        · rw [if_pos (ExclusivePair.applies_swapped.mpr happlies), if_pos happlies, hpair happlies]
        · rw [if_neg (mt ExclusivePair.applies_swapped.mp happlies), if_neg happlies]

theorem eq_of_finding_eq_underConjunction {rules : ConflictRules} {one two : TermSet}
    {conflict other : Conflict} (h : conflict ∈ underConjunction rules one)
    (hother : other ∈ underConjunction rules two) (hfinding : conflict.finding = other.finding) :
    conflict = other := by
  rcases mem_underConjunction.mp h with ⟨category, _, x, y, ⟨hlt, _⟩, rfl⟩
  rcases mem_underConjunction.mp hother with ⟨otherCategory, _, a, b, ⟨hotherLt, _⟩, rfl⟩
  rcases Prod.mk.inj hfinding with ⟨hkind, hterms⟩
  simp only [members, sortedPair_of_lt hlt, sortedPair_of_lt hotherLt] at hkind hterms
  cases hterms
  rw [members, members, ConflictKind.sameCategory.inj hkind]

end Conflict

/-!
# Reports of a query
-/

namespace Query

variable {query : Query} {rules other : ConflictRules}

theorem report_mem_conflicts {pair : ExclusivePair} (hpair : pair ∈ rules.exclusive)
    (happlies : pair.Applies query.included) :
    pair.report ∈ (query.extract rules).conflicts :=
  mem_conflicts.mpr (Or.inl (Conflict.mem_reports.mpr ⟨pair, hpair, happlies, rfl⟩))

/-- Two reports have one finding only if they name the states of an exclusive pair in opposite orders. -/
theorem eq_or_opposed_of_finding_eq {conflict repeated : Conflict}
    (h : conflict ∈ (query.extract rules).conflicts)
    (hrepeated : repeated ∈ (query.extract rules).conflicts)
    (hfinding : conflict.finding = repeated.finding) :
    conflict = repeated ∨
      ∃ pair ∈ rules.exclusive, ∃ opposite ∈ rules.exclusive, pair.Applies query.included ∧
        pair.Opposes opposite ∧ conflict = pair.report ∧ repeated = opposite.report := by
  have hkind : conflict.kind = repeated.kind := congrArg Prod.fst hfinding
  rcases mem_conflicts.mp h with hglobal | ⟨gathered, _, hclash⟩
  · rcases mem_conflicts.mp hrepeated with hother | ⟨others, _, hother⟩
    · rcases Conflict.mem_reports.mp hglobal with ⟨pair, hpair, happlies, rfl⟩
      rcases Conflict.mem_reports.mp hother with ⟨opposite, hopposite, hotherApplies, rfl⟩
      rcases Conflict.sides_eq_or_opposes happlies hotherApplies hfinding with
        ⟨hleft, hright⟩ | hopposes
      · apply Or.inl
        rw [ExclusivePair.report, ExclusivePair.report, hleft, hright]
      · exact Or.inr ⟨pair, hpair, opposite, hopposite, happlies, hopposes, rfl, rfl⟩
    · rcases Conflict.exists_terms_of_mem_underConjunction hother with ⟨⟨name, hname⟩, _⟩
      rw [(Conflict.exists_terms_of_mem_amongPresent hglobal).left, hname] at hkind
      cases hkind
  · rcases mem_conflicts.mp hrepeated with hother | ⟨others, _, hother⟩
    · rcases Conflict.exists_terms_of_mem_underConjunction hclash with ⟨⟨name, hname⟩, _⟩
      rw [(Conflict.exists_terms_of_mem_amongPresent hother).left, hname] at hkind
      cases hkind
    · exact Or.inl (Conflict.eq_of_finding_eq_underConjunction hclash hother hfinding)

theorem conflicts_eq (query : Query) (rules : ConflictRules) :
    (query.extract rules).conflicts =
      distinctBy id (Conflict.reports rules.exclusive query.included ++
        query.conjunctions.flatMap fun leaves =>
          Conflict.underConjunction rules (.ofList (leaves.map Leaf.term))) := rfl

theorem underConjunction_of_sidesExchanged (h : rules.SidesExchanged other) (present : TermSet) :
    Conflict.underConjunction other present = Conflict.underConjunction rules present := by
  rw [Conflict.underConjunction, Conflict.underConjunction, h.categories]

theorem findings_of_sidesExchanged (query : Query) (h : rules.SidesExchanged other) :
    distinctBy id ((query.extract other).conflicts.map Conflict.finding) =
      distinctBy id ((query.extract rules).conflicts.map Conflict.finding) := by
  rw [conflicts_eq, conflicts_eq, distinctBy_map_distinctBy, distinctBy_map_distinctBy,
    List.map_append, List.map_append, Conflict.map_finding_reports h.exclusive]
  simp only [underConjunction_of_sidesExchanged h]

/-- No finding is reported twice exactly if, of the exclusive pairs that apply, no two in opposite orders have
different sentences. -/
theorem pairwise_finding_iff :
    ((query.extract rules).conflicts.Pairwise fun earlier later => earlier.finding ≠ later.finding) ↔
      ∀ pair ∈ rules.exclusive, ∀ opposite ∈ rules.exclusive, pair.Applies query.included →
        pair.Opposes opposite → pair.report = opposite.report := by
  constructor
  · intro h pair hpair opposite hopposite happlies hopposes
    by_contra hne
    have hmem := @report_mem_conflicts query rules pair hpair happlies
    have hotherMem := @report_mem_conflicts query rules opposite hopposite
      (hopposes.applies happlies)
    have hsymm : Std.Symm fun earlier later : Conflict => earlier.finding ≠ later.finding :=
      ⟨fun _ _ hfinding => hfinding.symm⟩
    apply h.forall hmem hotherMem hne
    rw [ExclusivePair.report_of_opposes hopposes, Conflict.finding_report_swapped]
  · intro h
    refine List.Pairwise.imp_of_mem ?_ (nodup_distinctBy _)
    intro earlier later hearlier hlater hne hfinding
    rcases eq_or_opposed_of_finding_eq hearlier hlater hfinding with heq |
      ⟨pair, hpair, opposite, hopposite, happlies, hopposes, rfl, rfl⟩
    · exact hne heq
    · exact hne (h pair hpair opposite hopposite happlies hopposes)

/-- The rules with every pair that has these states in this order turned around. -/
def turnedRules (rules : ConflictRules) (pair : ExclusivePair) : ConflictRules :=
  { rules with
    exclusive := rules.exclusive.map fun other =>
      if other.report = pair.report then other.swapped else other }

theorem sidesExchanged_turnedRules (rules : ConflictRules) (pair : ExclusivePair) :
    rules.SidesExchanged (turnedRules rules pair) where
  categories := rfl
  exclusive := by
    rw [turnedRules, List.forall₂_map_right_iff, List.forall₂_same]
    intro other _
    split
    · exact Or.inr rfl
    · exact Or.inl rfl

theorem extract_eq_of_even (h : rules.SidesExchanged other)
    (heven : ∀ pair ∈ rules.exclusive, pair.Applies query.included →
      pair.swapped.report = pair.report) :
    query.extract other = query.extract rules := by
  have hconflicts : query.conflicts other = query.conflicts rules := by
    have hother := conflicts_eq query other
    rw [Conflict.reports_eq_of_even h.exclusive heven] at hother
    simp only [underConjunction_of_sidesExchanged h] at hother
    exact hother
  rw [extract, extract, hconflicts]

/-- The report of a pair that applies is gone when all pairs with this report are turned around, unless
the report stays the same. -/
theorem even_of_extract_turnedRules {pair : ExclusivePair} (hpair : pair ∈ rules.exclusive)
    (happlies : pair.Applies query.included)
    (h : query.extract (turnedRules rules pair) = query.extract rules) :
    pair.swapped.report = pair.report := by
  have hmem := report_mem_conflicts hpair happlies
  rw [← h] at hmem
  rcases mem_conflicts.mp hmem with hglobal | ⟨gathered, _, hclash⟩
  · rcases Conflict.mem_reports.mp hglobal with ⟨turn, hturn, hturnApplies, hreport⟩
    rcases List.mem_map.mp hturn with ⟨original, _, rfl⟩
    by_cases hsame : original.report = pair.report
    · rw [if_pos hsame] at hturnApplies hreport
      have horiginal := ExclusivePair.applies_swapped.mp hturnApplies
      rcases Conflict.sides_eq_or_opposes happlies horiginal
        (congrArg Conflict.finding hsame.symm) with ⟨hleft, hright⟩ | hopposes
      · rw [← hreport, ExclusivePair.report, ExclusivePair.report, ExclusivePair.swapped,
          ExclusivePair.swapped, hleft, hright]
      · rw [← ExclusivePair.report_of_opposes hopposes, hsame]
    · rw [if_neg hsame] at hreport
      exact absurd hreport hsame
  · rcases Conflict.exists_terms_of_mem_underConjunction hclash with ⟨⟨name, hname⟩, _⟩
    cases hname

/-- Conflicts are told apart by their sentences.  So the report of a query repeats no conflict, but a finding
is repeated whenever two pairs in opposite orders apply and their sentences differ.  Exchanging the sides of
pairs keeps all terms, and it keeps the findings in the order in which they come up first; it keeps the whole
extraction, whichever pairs are turned around, exactly if no sentence about a pair that applies changes with
the order of its states. -/
theorem conflicts_repeat_sentences (query : Query) (rules : ConflictRules) :
    (query.extract rules).conflicts.Nodup ∧
    (((query.extract rules).conflicts.Pairwise fun earlier later =>
        earlier.finding ≠ later.finding) ↔
      ∀ pair ∈ rules.exclusive, ∀ opposite ∈ rules.exclusive, pair.Applies query.included →
        pair.Opposes opposite → pair.report = opposite.report) ∧
    (∀ other, rules.SidesExchanged other →
      (query.extract other).included = (query.extract rules).included ∧
      (query.extract other).excluded = (query.extract rules).excluded ∧
      distinctBy id ((query.extract other).conflicts.map Conflict.finding) =
        distinctBy id ((query.extract rules).conflicts.map Conflict.finding)) ∧
    ((∀ other, rules.SidesExchanged other → query.extract other = query.extract rules) ↔
      ∀ pair ∈ rules.exclusive, pair.Applies query.included →
        pair.swapped.report = pair.report) := by
  refine ⟨nodup_distinctBy _, pairwise_finding_iff, ?_, ?_⟩
  · intro other h
    exact ⟨rfl, rfl, findings_of_sidesExchanged query h⟩
  · constructor
    · intro h pair hpair happlies
      exact even_of_extract_turnedRules hpair happlies (h _ (sidesExchanged_turnedRules rules pair))
    · intro heven other h
      exact extract_eq_of_even h heven

/-- The standard rules repeat no finding.  Turning all their pairs around keeps the findings of a query, and
changes the sentences. -/
theorem conflicts_repeat_sentences_standard :
    let query := Query.and (.filter "shadow".toList) (.filter "purified".toList)
    let turned : ConflictRules :=
      { ConflictRules.standard with
        exclusive := ConflictRules.standard.exclusive.map ExclusivePair.swapped }
    ((query.extract .standard).conflicts.Pairwise fun earlier later =>
        earlier.finding ≠ later.finding) ∧
      distinctBy id ((query.extract turned).conflicts.map Conflict.finding) =
        distinctBy id ((query.extract .standard).conflicts.map Conflict.finding) ∧
      query.extract turned ≠ query.extract .standard := by
  intro query turned
  rcases conflicts_repeat_sentences query .standard with ⟨_, hpairwise, hfindings, _⟩
  have hturned : ConflictRules.standard.SidesExchanged turned := by
    refine ⟨rfl, ?_⟩
    rw [List.forall₂_map_right_iff, List.forall₂_same]
    exact fun pair _ => Or.inr rfl
  exact ⟨hpairwise.mpr (by decide +kernel), (hfindings turned hturned).right.right,
    by decide +kernel⟩

/-- Rules that name one pair of states in both orders report it twice, and turning one of the pairs around
changes what is reported. -/
theorem conflicts_repeat_shadow :
    let query := Query.and (.filter "shadow".toList) (.filter "purified".toList)
    let pair : ExclusivePair := { left := "shadow".toList, right := "purified".toList }
    let rules : ConflictRules := { exclusive := [pair, pair.swapped], categories := [] }
    ¬((query.extract rules).conflicts.Pairwise fun earlier later =>
        earlier.finding ≠ later.finding) ∧
      query.extract { rules with exclusive := [pair.swapped, pair.swapped] } ≠
        query.extract rules := by
  decide +kernel

end Query
end Polyquery
