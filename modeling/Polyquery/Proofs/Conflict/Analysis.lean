import Polyquery.Conflict.Analysis
import Polyquery.Proofs.Conflict.Extraction
import Polyquery.Proofs.Query.Checked
import Polyquery.Proofs.Query.Kinds

/-!
# Analysed texts

The analysis of a text ends in one of three ways.  Nothing is asked in the empty text.  A faulty text is
rejected with one conflict and nothing else.  Any other text has a tree, and all that is reported of the tree
can be read off the text: its terms are the segments, and its conjunctions are the runs of segments between
two disjunctions.
-/

namespace Polyquery

open Text Unicode

namespace Query

/-- The text is empty, and so is its analysis. -/
structure Unasked (text : Text) (rules : ConflictRules) : Prop where
  text_eq : text = []
  result : analyzeWithTree text rules = (none, .empty)

/-- The check or the parser refuses the text.  There are no terms, and the only conflict says which of the
two it was. -/
structure Rejected (text : Text) (rules : ConflictRules) : Prop where
  fault : (∃ error, check text = .error error) ∨ ∃ error, parse text = .error error
  tree : (analyzeWithTree text rules).1 = none
  included : (analyze text rules).included = ∅
  excluded : (analyze text rules).excluded = ∅
  conflicts : ∃ conflict, (analyze text rules).conflicts = [conflict] ∧ conflict.terms = [] ∧
    conflict.kind = if (check text).isOk then .unparsed else .refused

/-- The text has a tree and terms, and no conflict is about its form. -/
structure Answered (text : Text) (rules : ConflictRules) : Prop where
  tree : ∃ query, (analyzeWithTree text rules).1 = some query
  terms : ¬((analyze text rules).included = ∅ ∧ (analyze text rules).excluded = ∅)
  conflicts : ∀ conflict ∈ (analyze text rules).conflicts,
    conflict.kind ≠ .refused ∧ conflict.kind ≠ .unparsed

end Query

inductive Outcome where
  | unasked
  | rejected
  | answered

namespace Outcome

def Holds (text : Text) (rules : ConflictRules) : Outcome → Prop
  | unasked => Query.Unasked text rules
  | rejected => Query.Rejected text rules
  | answered => Query.Answered text rules

def ofResult : Option Query × Extraction → Outcome
  | (some _, _) => answered
  | (none, extraction) => if extraction.isClean then unasked else rejected

end Outcome

namespace Query

variable {text : Text} {rules : ConflictRules} {query : Query}

/-!
# Stages of the analysis
-/

theorem analyzeWithTree_of_refused {error : CheckError} (h : check text = .error error) :
    analyzeWithTree text rules = (none, .failed .refused error.message) := by
  rw [analyzeWithTree, h]

theorem analyzeWithTree_of_unparsed {error : ParseError} (hcheck : check text = .ok ())
    (h : parse text = .error error) :
    analyzeWithTree text rules = (none, .failed .unparsed error.message) := by
  rw [analyzeWithTree, hcheck]
  simp only [h]

theorem analyzeWithTree_of_parsed (hcheck : check text = .ok ())
    (h : parse text = .ok (some query)) :
    analyzeWithTree text rules = (some query, query.extract rules) := by
  rw [analyzeWithTree, hcheck]
  simp only [h]

theorem parsed_of_analyzeWithTree {extraction : Extraction}
    (h : analyzeWithTree text rules = (some query, extraction)) :
    check text = .ok () ∧ parse text = .ok (some query) := by
  unfold analyzeWithTree at h
  split at h
  · cases h
  · rename_i hcheck
    split at h
    · rename_i parsed hparse
      cases h
      exact ⟨hcheck, hparse⟩
    · cases h
    · cases h

theorem unasked_nil (rules : ConflictRules) : Unasked [] rules where
  text_eq := rfl
  result := by
    have hcheck : check [] = .ok () := rfl
    have hparse : parse [] = .ok none := parse_of_blank rfl
    rw [analyzeWithTree, hcheck]
    simp only [hparse]

theorem unasked_of_parsed (hcheck : check text = .ok ()) (h : parse text = .ok none) :
    Unasked text rules := by
  have hnil := eq_nil_of_isBlankText (avoids_isBlank_of_check hcheck) (isBlankText_of_parse h)
  subst hnil
  exact unasked_nil rules

theorem rejected_of_failed {kind : ConflictKind} {detail : Text}
    (hfault : (∃ error, check text = .error error) ∨ ∃ error, parse text = .error error)
    (hresult : analyzeWithTree text rules = (none, .failed kind detail))
    (hkind : kind = if (check text).isOk then .unparsed else .refused) : Rejected text rules := by
  refine ⟨hfault, ?_, ?_, ?_, ?_⟩
  · rw [hresult]
  · rw [analyze, hresult]
    rfl
  · rw [analyze, hresult]
    rfl
  · rw [analyze, hresult]
    exact ⟨_, rfl, rfl, hkind⟩

theorem rejected_of_refused {error : CheckError} (h : check text = .error error) :
    Rejected text rules := by
  apply rejected_of_failed (Or.inl ⟨error, h⟩) (analyzeWithTree_of_refused h)
  rw [h]
  rfl

theorem rejected_of_unparsed {error : ParseError} (hcheck : check text = .ok ())
    (h : parse text = .error error) : Rejected text rules := by
  apply rejected_of_failed (Or.inr ⟨error, h⟩) (analyzeWithTree_of_unparsed hcheck h)
  rw [hcheck]
  rfl

theorem exists_mem_included_or_excluded (query : Query) :
    ∃ term, term ∈ query.included ∨ term ∈ query.excluded := by
  rcases List.exists_mem_of_ne_nil _ query.leaves_ne_nil with ⟨⟨negated, term⟩, hleaf⟩
  cases negated with
  | false => exact ⟨term, Or.inl (mem_included.mpr (mem_leaves.mp hleaf))⟩
  | true => exact ⟨term, Or.inr (mem_excluded.mpr (mem_leaves.mp hleaf))⟩

theorem answered_of_parsed (hcheck : check text = .ok ()) (h : parse text = .ok (some query)) :
    Answered text rules := by
  have hresult := @analyzeWithTree_of_parsed text rules query hcheck h
  refine ⟨⟨query, ?_⟩, ?_, ?_⟩
  · rw [hresult]
  · rw [analyze, hresult]
    intro hempty
    have hincluded : query.included = ∅ := hempty.left
    have hexcluded : query.excluded = ∅ := hempty.right
    rcases query.exists_mem_included_or_excluded with ⟨term, hterm | hterm⟩
    · rw [hincluded] at hterm
      exact TermSet.not_mem_empty hterm
    · rw [hexcluded] at hterm
      exact TermSet.not_mem_empty hterm
  · rw [analyze, hresult]
    intro conflict hconflict
    rcases (kind_and_terms_of_mem_conflicts hconflict).left with hkind | ⟨name, hkind⟩
    · rw [hkind]
      exact ⟨ConflictKind.noConfusion, ConflictKind.noConfusion⟩
    · rw [hkind]
      exact ⟨ConflictKind.noConfusion, ConflictKind.noConfusion⟩

theorem exists_parsed_of_answered (h : Answered text rules) :
    ∃ query, check text = .ok () ∧ parse text = .ok (some query) := by
  rcases h.tree with ⟨query, htree⟩
  have hresult : analyzeWithTree text rules = (some query, analyze text rules) :=
    Prod.ext htree rfl
  exact ⟨query, parsed_of_analyzeWithTree hresult⟩

/-!
# Outcomes
-/

theorem exists_outcome (text : Text) (rules : ConflictRules) :
    ∃ outcome : Outcome, outcome.Holds text rules := by
  cases hcheck : check text with
  | error error => exact ⟨.rejected, rejected_of_refused hcheck⟩
  | ok _ =>
      cases hparse : parse text with
      | error error => exact ⟨.rejected, rejected_of_unparsed hcheck hparse⟩
      | ok answer =>
          cases answer with
          | none => exact ⟨.unasked, unasked_of_parsed hcheck hparse⟩
          | some query => exact ⟨.answered, answered_of_parsed hcheck hparse⟩

theorem eq_ofResult_of_holds {outcome : Outcome} (h : outcome.Holds text rules) :
    outcome = .ofResult (analyzeWithTree text rules) := by
  cases outcome with
  | unasked =>
      rw [Unasked.result h]
      rfl
  | rejected =>
      rcases Rejected.conflicts h with ⟨conflict, hconflicts, _⟩
      rw [← Prod.eta (analyzeWithTree text rules), Rejected.tree h, Outcome.ofResult,
        Extraction.isClean, ← analyze, hconflicts]
      rfl
  | answered =>
      rcases Answered.tree h with ⟨query, htree⟩
      rw [← Prod.eta (analyzeWithTree text rules), htree]
      rfl

theorem exists_shared_outcome (rules : ConflictRules) {left right : Text}
    (hcheck : check left = .ok () ↔ check right = .ok ())
    (hread : SameReading (parse left) (parse right)) :
    ∃ outcome : Outcome, outcome.Holds left rules ∧ outcome.Holds right rules := by
  cases hleft : check left with
  | error error =>
      cases hright : check right with
      | error other => exact ⟨.rejected, rejected_of_refused hleft, rejected_of_refused hright⟩
      | ok _ =>
          rw [hcheck.mpr hright] at hleft
          cases hleft
  | ok _ =>
      have hright := hcheck.mp hleft
      generalize hfirst : parse left = first at hread
      generalize hsecond : parse right = second at hread
      cases hread with
      | blank => exact ⟨.unasked, unasked_of_parsed hleft hfirst, unasked_of_parsed hright hsecond⟩
      | query _ =>
          exact ⟨.answered, answered_of_parsed hleft hfirst, answered_of_parsed hright hsecond⟩
      | refused _ =>
          exact ⟨.rejected, rejected_of_unparsed hleft hfirst, rejected_of_unparsed hright hsecond⟩

theorem kind_ne_refused_of_check (hcheck : check text = .ok ()) {conflict : Conflict}
    (hmem : conflict ∈ (analyze text rules).conflicts) : conflict.kind ≠ .refused := by
  rcases exists_outcome text rules with ⟨outcome, houtcome⟩
  cases outcome with
  | unasked =>
      rw [analyze, Unasked.result houtcome] at hmem
      cases hmem
  | rejected =>
      rcases Rejected.conflicts houtcome with ⟨only, hconflicts, _, hkind⟩
      rw [hconflicts] at hmem
      rw [List.mem_singleton.mp hmem, hkind, hcheck]
      exact ConflictKind.noConfusion
  | answered => exact (Answered.conflicts houtcome conflict hmem).left

/-!
# Reports of a text
-/

theorem within_iff_of_checked (hblank : Avoids isBlank text) (h : parse text = .ok (some query))
    (leaf : Leaf) :
    leaf.query.Within query ↔ leaf ∈ (Piece.segments text).map Leaf.ofSegment := by
  rw [← leaves_of_checked hblank h, mem_leaves]

theorem reports_sameCategory_of_checked (hblank : Avoids isBlank text)
    (h : parse text = .ok (some query)) {name x y : Text} :
    (query.extract rules).Reports (.sameCategory name) [x, y] ↔
      x < y ∧ rules.Groups name x y ∧ ∃ run ∈ Piece.alternatives (Piece.ofText text),
        (∃ segment ∈ run, (Leaf.ofSegment segment).term = x) ∧
          ∃ segment ∈ run, (Leaf.ofSegment segment).term = y := by
  have hflat := flat_of_leftNested (alternatives_of_parse h).left
  rw [reports_sameCategory]
  refine and_congr_right fun hlt => and_congr_right fun _ => ?_
  have hne : x ≠ y := by
    intro heq
    rw [heq] at hlt
    exact List.lt_irrefl y hlt
  rw [exists_conjunction_iff hflat hne, alternatives_of_checked hblank h]
  simp only [List.mem_map, exists_exists_and_eq_and]

/-- Every text has one of the three outcomes and only one.  What is reported of an answered text is written
in its segments. -/
theorem analyze_reads_segments (text : Text) (rules : ConflictRules) :
    (∃! outcome : Outcome, outcome.Holds text rules) ∧
    (Answered text rules →
      (∀ term, term ∈ (analyze text rules).included ↔
        { negated := false, term := term } ∈ (Piece.segments text).map Leaf.ofSegment) ∧
      (∀ term, term ∈ (analyze text rules).excluded ↔
        { negated := true, term := term } ∈ (Piece.segments text).map Leaf.ofSegment) ∧
      (∀ name x y, (analyze text rules).Reports (.sameCategory name) [x, y] ↔
        x < y ∧ rules.Groups name x y ∧ ∃ run ∈ Piece.alternatives (Piece.ofText text),
          (∃ segment ∈ run, (Leaf.ofSegment segment).term = x) ∧
            ∃ segment ∈ run, (Leaf.ofSegment segment).term = y) ∧
      (∀ x y, (analyze text rules).Reports .globallyExclusive [x, y] ↔
        x < y ∧ rules.Excludes x y ∧
          x ∈ (analyze text rules).included ∧ y ∈ (analyze text rules).included)) := by
  constructor
  · rcases exists_outcome text rules with ⟨outcome, houtcome⟩
    refine ⟨outcome, houtcome, ?_⟩
    intro other hother
    rw [eq_ofResult_of_holds hother, eq_ofResult_of_holds houtcome]
  · intro hanswered
    rcases exists_parsed_of_answered hanswered with ⟨query, hcheck, hparse⟩
    have hblank := avoids_isBlank_of_check hcheck
    rw [analyze, analyzeWithTree_of_parsed hcheck hparse]
    refine ⟨?_, ?_, ?_, ?_⟩
    · intro term
      exact mem_included.trans (within_iff_of_checked hblank hparse ⟨false, term⟩)
    · intro term
      exact mem_excluded.trans (within_iff_of_checked hblank hparse ⟨true, term⟩)
    · intro name x y
      exact reports_sameCategory_of_checked hblank hparse
    · intro x y
      exact reports_globallyExclusive

theorem analyze_reads_segments_ratings :
    let extraction := analyze "Shadow&!4*&3*,1*,purified".toList .standard
    extraction.Reports (.sameCategory "stars".toList) ["3*".toList, "4*".toList] ∧
      ¬extraction.Reports (.sameCategory "stars".toList) ["1*".toList, "4*".toList] ∧
      extraction.Reports .globallyExclusive ["purified".toList, "shadow".toList] := by
  intro extraction
  have hcheck : check "Shadow&!4*&3*,1*,purified".toList = .ok () := by
    decide +kernel
  have hparse : parse "Shadow&!4*&3*,1*,purified".toList =
      .ok (some (.or (.or (.and (.and (.filter "shadow".toList) (.not "4*".toList))
        (.filter "3*".toList)) (.filter "1*".toList)) (.filter "purified".toList))) := by
    decide +kernel
  have hruns : Piece.alternatives (Piece.ofText "Shadow&!4*&3*,1*,purified".toList) =
      [["Shadow".toList, "!4*".toList, "3*".toList], ["1*".toList], ["purified".toList]] := by
    decide +kernel
  rcases (analyze_reads_segments _ _).right (answered_of_parsed hcheck hparse) with
    ⟨hincluded, _, hcategories, hexclusive⟩
  refine ⟨?_, ?_, ?_⟩
  · apply (hcategories _ _ _).mpr
    rw [hruns]
    decide +kernel
  · intro h
    have hrun := ((hcategories _ _ _).mp h).right.right
    rw [hruns] at hrun
    revert hrun
    decide +kernel
  · apply (hexclusive _ _).mpr
    rw [hincluded, hincluded]
    decide +kernel

end Query
end Polyquery
