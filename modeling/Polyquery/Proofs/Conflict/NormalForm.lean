import Polyquery.Proofs.Conflict.Analysis
import Polyquery.Proofs.Query.Acceptance

/-!
# Normal forms

The tree of an analyzed text, written down, is the normal form of the text.  It has the same segments in
lower case and one spelling for each operator.  Lower case makes neither digits nor letters out of other
characters, so a normal form is accepted by the check because its text was, and its analysis is that of the
text.
-/

namespace Polyquery

open Text Unicode

/-!
# Number groups in lower case
-/

def groupMarks : List Interval := [⟨0x2D, 0x2D⟩, ⟨0x30, 0x39⟩]

theorem keptByLowering_groupMarks : KeptByLowering groupMarks where
  zero := by decide
  dottedI := by decide
  finalSigma := by decide
  combiningDot := by decide
  capitals := by decide +kernel
  smallLetters := by decide +kernel

theorem covered_of_isGroupChar {c : Char} (h : isGroupChar c = true) :
    covered groupMarks c = true := by
  rw [isGroupChar, Bool.or_eq_true, beq_iff_eq, Char.isDigit_iff_toNat] at h
  rw [covered_iff]
  rcases h with rfl | hdigit
  · exact ⟨⟨0x2D, 0x2D⟩, by decide, by decide, by decide⟩
  · exact ⟨⟨0x30, 0x39⟩, by decide, hdigit⟩

theorem exists_append_of_lower_eq {text number out : Text} (hgroup : NumberGroup number)
    (h : lower text = number ++ out) :
    ∃ rest, text = number ++ rest ∧ lowerAfter number.reverse rest = out := by
  have hrun : ∀ c ∈ number, covered groupMarks c = true := by
    intro c hc
    exact covered_of_isGroupChar (hgroup.isGroupChar hc)
  rcases exists_append_of_lowerAfter_eq keptByLowering_groupMarks hrun h with ⟨rest, htext, hout⟩
  rw [List.append_nil] at hout
  exact ⟨rest, htext, hout⟩

theorem numberGroup_of_lower {text : Text} (h : NumberGroup (lower text)) : NumberGroup text := by
  rcases exists_append_of_lower_eq h (List.append_nil _).symm with ⟨rest, htext, hout⟩
  have hrest : rest = [] := by
    by_contra hne
    exact lowerAfter_ne_nil _ hne hout
  rw [hrest, List.append_nil] at htext
  rw [htext]
  exact h

theorem runsIntoLetter_of_lower {text : Text} (h : RunsIntoLetter (lower text)) :
    RunsIntoLetter text := by
  rcases h with ⟨number, d, tail, hlower, hgroup, hletter⟩
  rcases exists_append_of_lower_eq hgroup hlower with ⟨rest, htext, hout⟩
  cases rest with
  | nil => cases hout
  | cons c rest =>
      -- the letter begins the lower case of the character that follows the group in the text
      have hbegins : BeginsWith isLetter (lowerAfter number.reverse (c :: rest)) := by
        rw [hout, beginsWith_cons]
        exact hletter
      exact ⟨number, c, rest, htext, hgroup, (beginsWith_isLetter_lowerAfter _).mp hbegins⟩

/-!
# Segments in normal form
-/

/-- A segment of a checked text as the tree of the text writes it. -/
def normalSegment (segment : Text) : Text :=
  (Leaf.ofSegment segment).query.render

theorem normalSegment_cases (segment : Text) :
    (∃ term, segment = '!' :: term ∧ normalSegment segment = '!' :: lower term ∧
      (Leaf.ofSegment segment).term = lower term) ∨
    normalSegment segment = lower segment ∧ (Leaf.ofSegment segment).term = lower segment := by
  unfold normalSegment Leaf.ofSegment
  split
  · rename_i term
    exact Or.inl ⟨term, rfl, rfl, rfl⟩
  · exact Or.inr ⟨rfl, rfl⟩

theorem avoids_isBlank_normalSegment {segment : Text} (h : Avoids isBlank segment) :
    Avoids isBlank (normalSegment segment) := by
  have hlower : ∀ text, Avoids isBlank text → Avoids isBlank (lower text) := fun text htext =>
    (avoids_lowerAfter keptByFolding_blanks.lowering [] text).mpr htext
  rcases normalSegment_cases segment with ⟨term, rfl, hnormal, _⟩ | ⟨hnormal, _⟩
  · rw [hnormal]
    rcases avoids_cons.mp h with ⟨hmark, hterm⟩
    exact avoids_cons.mpr ⟨hmark, hlower term hterm⟩
  · rw [hnormal]
    exact hlower segment h

theorem numberGroup_of_normalSegment {segment : Text} (h : NumberGroup (normalSegment segment)) :
    NumberGroup segment := by
  rcases normalSegment_cases segment with ⟨term, rfl, hnormal, _⟩ | ⟨hnormal, _⟩
  · rw [hnormal] at h
    exact absurd (h.isGroupChar List.mem_cons_self) (by decide)
  · rw [hnormal] at h
    exact numberGroup_of_lower h

theorem glued_of_normalSegment {segment : Text}
    (hplain : Avoids isOperatorChar (Leaf.ofSegment segment).term)
    (h : Glued (normalSegment segment)) : Glued segment := by
  rcases normalSegment_cases segment with ⟨term, rfl, hnormal, hterm⟩ | ⟨hnormal, hterm⟩
  · have hmark : isOperatorChar '!' = true := by decide
    rw [hterm] at hplain
    rw [hnormal, ← List.nil_append ('!' :: lower term), glued_append_operator hmark] at h
    rw [← List.nil_append ('!' :: term), glued_append_operator hmark]
    refine h.imp_right fun hglued => Or.inl ?_
    exact runsIntoLetter_of_lower ((glued_of_avoids hplain).mp hglued)
  · rw [hterm] at hplain
    rw [hnormal, glued_of_avoids hplain] at h
    exact Or.inl (runsIntoLetter_of_lower h)

/-!
# Analysis of a normal form
-/

namespace Query

variable {text : Text} {tree : Query}

theorem alternatives_render_of_checked (hblank : Avoids isBlank text)
    (h : parse text = .ok (some tree)) :
    Piece.alternatives (Piece.ofText tree.render) =
      (Piece.alternatives (Piece.ofText text)).map (List.map normalSegment) := by
  have hflat := flat_of_leftNested (alternatives_of_parse h).left
  rw [alternatives_render hflat (validTerms_of_parse h), alternatives_of_checked hblank h,
    List.map_map]
  apply List.map_congr_left
  intro run _
  exact List.map_map

theorem check_render (hcheck : check text = .ok ()) (h : parse text = .ok (some tree)) :
    check tree.render = .ok () := by
  have hblank := avoids_isBlank_of_check hcheck
  have haccepted := check_eq_ok_iff.mp hcheck
  rw [check_eq_ok_iff, acceptable_iff_of_rewritten (alternatives_render_of_checked hblank h)]
  refine ⟨?_, ?_, ?_⟩
  · intro segment hsegment
    exact avoids_isBlank_normalSegment (haccepted.blank segment hsegment)
  · intro segment hsegment hglued
    have hleaf : Leaf.ofSegment segment ∈ tree.leaves := by
      rw [leaves_of_checked hblank h]
      exact List.mem_map_of_mem hsegment
    have hterm := validTerms_of_parse h _ hleaf
    exact haccepted.unglued segment hsegment (glued_of_normalSegment hterm.operatorFree hglued)
  · intro run hrun
    exact (haccepted.unpaired run hrun).map fun _ _ => numberGroup_of_normalSegment

/-- An analyzed text and the written tree of it have one analysis, and the check accepts both. -/
theorem analyzeWithTree_render (text : Text) (rules : ConflictRules) {tree : Query}
    {extraction : Extraction} (h : analyzeWithTree text rules = (some tree, extraction)) :
    check tree.render = .ok () ∧
      analyzeWithTree tree.render rules = (some tree, extraction) := by
  rcases parsed_of_analyzeWithTree h with ⟨hcheck, hparse⟩
  have hrender := check_render hcheck hparse
  have hnested := (alternatives_of_parse hparse).left
  rcases exists_parse_render (flat_of_leftNested hnested) (validTerms_of_parse hparse) with
    ⟨again, hagain, hagainNested, halternatives⟩
  rw [eq_of_alternatives_eq hagainNested hnested halternatives] at hagain
  refine ⟨hrender, ?_⟩
  rw [← h, analyzeWithTree_of_parsed hrender hagain, analyzeWithTree_of_parsed hcheck hparse]

theorem analyzeWithTree_render_dotted :
    let tree := Query.or (.or (.and (.filter ['i', Char.ofNat 0x307, 'v', 'y'])
      (.not "lucky".toList)) (.filter "4*".toList)) (.and (.filter "12-".toList) (.filter "é".toList))
    analyzeWithTree "İvy|!LUCKY;4*:12-&É".toList .standard = (some tree, tree.extract .standard) ∧
      tree.render = 'i' :: Char.ofNat 0x307 :: "vy&!lucky,4*,12-&é".toList ∧
      check tree.render = .ok () ∧
      analyzeWithTree tree.render .standard = (some tree, tree.extract .standard) := by
  intro tree
  have hcheck : check "İvy|!LUCKY;4*:12-&É".toList = .ok () := by
    decide +kernel
  have hparse : parse "İvy|!LUCKY;4*:12-&É".toList = .ok (some tree) := by
    decide +kernel
  have hresult := @analyzeWithTree_of_parsed _ .standard _ hcheck hparse
  exact ⟨hresult, rfl, analyzeWithTree_render _ _ hresult⟩

end Query
end Polyquery
