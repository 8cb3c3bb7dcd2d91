import Mathlib.Tactic.MkIffOfInductiveProp
import Polyquery.Proofs.Query.Checked
import Polyquery.Proofs.Text.Letters

/-!
# What the check accepts

The check scans a text by position.  What it accepts can be said without positions: there is no white
space, no segment has a number group that runs into a letter, and no alternative has two number groups as
neighbours.  Every condition speaks of segments and of how they are joined, so whether a rewritten text is
accepted can be decided segment by segment.
-/

namespace Polyquery

open Text Unicode

/-!
# Number groups
-/

/-- A run of digits that may go on with a dash and more digits. -/
inductive NumberGroup : Text → Prop where
  | single {digits : Text} (hne : digits ≠ []) (hdigits : ∀ c ∈ digits, c.isDigit = true) :
      NumberGroup digits
  | range {digits upper : Text} (hne : digits ≠ []) (hdigits : ∀ c ∈ digits, c.isDigit = true)
      (hupper : ∀ c ∈ upper, c.isDigit = true) : NumberGroup (digits ++ '-' :: upper)

def isGroupChar (c : Char) : Bool :=
  c == '-' || c.isDigit

/-- A number group at the front of the text runs into a letter. -/
def RunsIntoLetter (text : Text) : Prop :=
  ∃ number c rest, text = number ++ c :: rest ∧ NumberGroup number ∧ isLetter c = true

/-- Directly behind some operator of the text, a number group runs into a letter. -/
def GluedBehind (text : Text) : Prop :=
  ∃ before c rest, text = before ++ c :: rest ∧ isOperatorChar c = true ∧ RunsIntoLetter rest

/-- A number group that opens the text or stands behind an operator runs into a letter. -/
def Glued (text : Text) : Prop :=
  RunsIntoLetter text ∨ GluedBehind text

theorem NumberGroup.isGroupChar {number : Text} (h : NumberGroup number) {c : Char}
    (hc : c ∈ number) : isGroupChar c = true := by
  have hdigit : ∀ d : Char, d.isDigit = true → Polyquery.isGroupChar d = true := by
    intro d hd
    rw [Polyquery.isGroupChar, hd, Bool.or_true]
  cases h with
  | single _ hdigits => exact hdigit c (hdigits c hc)
  | range _ hdigits hupper =>
      rcases List.mem_append.mp hc with hc | hc
      · exact hdigit c (hdigits c hc)
      · rcases List.mem_cons.mp hc with rfl | hc
        · rfl
        · exact hdigit c (hupper c hc)

theorem isLeadChar_of_isGroupChar {c : Char} (h : isGroupChar c = true) :
    Segment.isLeadChar c = true := by
  rw [isGroupChar] at h
  rw [Segment.isLeadChar, Bool.or_assoc, h, Bool.or_true]

theorem isGroupChar_of_isOperatorChar {c : Char} (h : isOperatorChar c = true) :
    isGroupChar c = false := by
  rw [isOperatorChar_iff, isSeparator_iff] at h
  rcases h with rfl | rfl | rfl | rfl | rfl | rfl
  all_goals rfl

theorem startsOutside_isGroupChar {text : Text} (h : StartsOutside Segment.isLeadChar text) :
    StartsOutside isGroupChar text := by
  intro c hc
  cases hgroup : isGroupChar c with
  | false => rfl
  | true =>
      have hlead := h c hc
      rw [isLeadChar_of_isGroupChar hgroup] at hlead
      cases hlead

theorem startsOutside_isGroupChar_of_isLetter {c : Char} {rest : Text} (h : isLetter c = true) :
    StartsOutside isGroupChar (c :: rest) := by
  apply startsOutside_isGroupChar
  rw [startsOutside_cons]
  cases hlead : Segment.isLeadChar c with
  | false => rfl
  | true =>
      rw [isLetter_of_isLeadChar hlead] at h
      cases h

namespace Check

theorem numberGroup?_append {number rest : Text} (h : NumberGroup number)
    (hrest : StartsOutside isGroupChar rest) :
    numberGroup? (number ++ rest) = some (number, rest) := by
  have hdigit : StartsOutside Char.isDigit rest := by
    intro c hc
    exact (Bool.or_eq_false_iff.mp (hrest c hc)).right
  cases h with
  | single hne hdigits =>
      have hempty : number.isEmpty = false := List.isEmpty_eq_false_iff.mpr hne
      simp only [numberGroup?, takeWhile_append_run hdigits hdigit,
        dropWhile_append_run hdigits hdigit, hempty, Bool.false_eq_true, if_false]
      split
      · exact absurd (startsOutside_cons.mp hrest) (by decide)
      · rfl
  | @range digits upper hne hdigits hupper =>
      have hempty : digits.isEmpty = false := List.isEmpty_eq_false_iff.mpr hne
      have hdash : StartsOutside Char.isDigit ('-' :: (upper ++ rest)) :=
        startsOutside_cons.mpr rfl
      rw [List.append_assoc, List.cons_append]
      simp only [numberGroup?, takeWhile_append_run hdigits hdash,
        dropWhile_append_run hdigits hdash, takeWhile_append_run hupper hdigit,
        dropWhile_append_run hupper hdigit, hempty, Bool.false_eq_true, if_false]

theorem numberGroup_of_numberGroup? {text number rest : Text}
    (h : numberGroup? text = some (number, rest)) : NumberGroup number ∧ text = number ++ rest := by
  have hsplit : text.takeWhile Char.isDigit ++ text.dropWhile Char.isDigit = text :=
    List.takeWhile_append_dropWhile
  have hdigits : ∀ c ∈ text.takeWhile Char.isDigit, c.isDigit = true := by
    intro c hc
    exact List.mem_takeWhile_imp hc
  unfold numberGroup? at h
  simp only [] at h
  split at h
  · cases h
  · rename_i hempty
    have hne : text.takeWhile Char.isDigit ≠ [] := by
      rw [ne_eq, ← List.isEmpty_iff]
      exact hempty
    split at h
    · rename_i tail htail
      cases h
      refine ⟨.range hne hdigits fun c hc => List.mem_takeWhile_imp hc, ?_⟩
      rw [List.append_assoc, List.cons_append, List.takeWhile_append_dropWhile, ← htail, hsplit]
    · cases h
      exact ⟨.single hne hdigits, hsplit.symm⟩

theorem isNumberGroup_iff {text : Text} : isNumberGroup text = true ↔ NumberGroup text := by
  unfold isNumberGroup
  constructor
  · intro h
    split at h
    · rename_i number rest hnumber
      rcases numberGroup_of_numberGroup? hnumber with ⟨hgroup, htext⟩
      rw [List.isEmpty_iff.mp h, List.append_nil] at htext
      rw [htext]
      exact hgroup
    · cases h
  · intro h
    have hnumber := numberGroup?_append h avoids_nil.startsOutside
    rw [List.append_nil] at hnumber
    rw [hnumber]
    rfl

theorem gluedNumber?_eq_some_iff {text number : Text} :
    gluedNumber? text = some number ↔
      NumberGroup number ∧ ∃ c rest, text = number ++ c :: rest ∧ isLetter c = true := by
  unfold gluedNumber?
  constructor
  · intro h
    split at h
    · rename_i found c rest hnumber
      split at h
      · rename_i hletter
        cases h
        rcases numberGroup_of_numberGroup? hnumber with ⟨hgroup, htext⟩
        exact ⟨hgroup, c, rest, htext, hletter⟩
      · cases h
    · cases h
  · intro h
    rcases h with ⟨hgroup, c, rest, rfl, hletter⟩
    rw [numberGroup?_append hgroup (startsOutside_isGroupChar_of_isLetter hletter)]
    simp only [hletter, if_true]

theorem gluedNumber?_eq_none_iff {text : Text} :
    gluedNumber? text = none ↔ ¬RunsIntoLetter text := by
  rw [Option.eq_none_iff_forall_ne_some]
  constructor
  · intro h hparts
    rcases hparts with ⟨number, c, rest, htext, hgroup, hletter⟩
    exact h number (gluedNumber?_eq_some_iff.mpr ⟨hgroup, c, rest, htext, hletter⟩)
  · intro h number hnumber
    rcases gluedNumber?_eq_some_iff.mp hnumber with ⟨hgroup, c, rest, htext, hletter⟩
    exact h ⟨number, c, rest, htext, hgroup, hletter⟩

end Check

/-!
# Glued texts
-/

theorem not_gluedBehind_nil : ¬GluedBehind [] := by
  intro h
  rcases h with ⟨before, c, rest, htext, _⟩
  exact absurd htext.symm (by simp)

theorem gluedBehind_cons {c : Char} {rest : Text} :
    GluedBehind (c :: rest) ↔ isOperatorChar c = true ∧ RunsIntoLetter rest ∨ GluedBehind rest := by
  constructor
  · intro h
    rcases h with ⟨before, d, tail, htext, hop, hruns⟩
    cases before with
    | nil =>
        cases htext
        exact Or.inl ⟨hop, hruns⟩
    | cons _ before =>
        cases htext
        exact Or.inr ⟨before, d, tail, rfl, hop, hruns⟩
  · intro h
    rcases h with ⟨hop, hruns⟩ | ⟨before, d, tail, rfl, hop, hruns⟩
    · exact ⟨[], c, rest, rfl, hop, hruns⟩
    · exact ⟨c :: before, d, tail, rfl, hop, hruns⟩

theorem runsIntoLetter_append {left right : Text} (hright : StartsOutside isGroupChar right) :
    RunsIntoLetter (left ++ right) ↔
      RunsIntoLetter left ∨ NumberGroup left ∧ BeginsWith isLetter right := by
  constructor
  · intro h
    rcases h with ⟨number, c, tail, htext, hgroup, hletter⟩
    rcases List.append_eq_append_iff.mp htext with ⟨middle, hnumber, hmiddle⟩ | ⟨middle, hleft, hmiddle⟩
    · cases middle with
      | nil =>
          rw [List.append_nil] at hnumber
          rw [← hnumber, hmiddle, List.nil_append, beginsWith_cons]
          exact Or.inr ⟨hgroup, hletter⟩
      | cons d middle =>
          -- `right` would begin inside the number
          have hd : d ∈ number := by
            rw [hnumber]
            exact List.mem_append_right left List.mem_cons_self
          rw [hmiddle, List.cons_append, startsOutside_cons, hgroup.isGroupChar hd] at hright
          cases hright
    · cases middle with
      | nil =>
          rw [List.append_nil] at hleft
          rw [hleft, ← List.nil_append right, ← hmiddle, beginsWith_cons]
          exact Or.inr ⟨hgroup, hletter⟩
      | cons d middle =>
          rw [List.cons_append] at hmiddle
          cases hmiddle
          exact Or.inl ⟨number, c, middle, hleft, hgroup, hletter⟩
  · intro h
    rcases h with ⟨number, c, tail, rfl, hgroup, hletter⟩ | ⟨hgroup, c, hc, hletter⟩
    · exact ⟨number, c, tail ++ right, by rw [List.append_assoc, List.cons_append], hgroup, hletter⟩
    · rcases List.head?_eq_some_iff.mp hc with ⟨tail, rfl⟩
      exact ⟨left, c, tail, rfl, hgroup, hletter⟩

theorem runsIntoLetter_append_operator {c : Char} (hc : isOperatorChar c = true)
    (left right : Text) : RunsIntoLetter (left ++ c :: right) ↔ RunsIntoLetter left := by
  rw [runsIntoLetter_append (startsOutside_cons.mpr (isGroupChar_of_isOperatorChar hc)),
    beginsWith_cons, isLetter_of_isOperatorChar hc]
  simp only [Bool.false_eq_true, and_false, or_false]

theorem gluedBehind_append_operator {c : Char} (hc : isOperatorChar c = true)
    (left right : Text) : GluedBehind (left ++ c :: right) ↔ GluedBehind left ∨ Glued right := by
  induction left with
  | nil =>
      rw [List.nil_append, gluedBehind_cons, Glued]
      simp only [hc, true_and, not_gluedBehind_nil, false_or]
  | cons d left ih =>
      rw [List.cons_append, gluedBehind_cons, gluedBehind_cons, ih,
        runsIntoLetter_append_operator hc, or_assoc]

theorem glued_append_operator {c : Char} (hc : isOperatorChar c = true) (left right : Text) :
    Glued (left ++ c :: right) ↔ Glued left ∨ Glued right := by
  rw [Glued, runsIntoLetter_append_operator hc, gluedBehind_append_operator hc, ← or_assoc]
  rfl

theorem glued_of_avoids {text : Text} (h : Avoids isOperatorChar text) :
    Glued text ↔ RunsIntoLetter text := by
  rw [Glued, or_iff_left]
  intro h
  rcases h with ⟨before, c, rest, rfl, hop, _⟩
  rw [h c (List.mem_append_right before List.mem_cons_self)] at hop
  cases hop

theorem glued_iff_exists_segment {text : Text} :
    Glued text ↔ ∃ segment ∈ Piece.segments text, Glued segment := by
  induction text using induction_on_breaks isSeparator with
  | whole run hrun => simp [Piece.segments, Piece.ofText_of_avoids hrun, Piece.segment?]
  | step run c rest hrun hc ih =>
      have hop : isOperatorChar c = true := isOperatorChar_iff.mpr (Or.inr hc)
      rw [glued_append_operator hop, ih, Piece.segments_append_separator hc]
      simp [Piece.segments, Piece.ofText_of_avoids hrun, Piece.segment?]

namespace Check

theorem firstGlued?_eq_none_iff {opens : Bool} {offset : Nat} {text : Text} :
    firstGlued? opens offset text = none ↔
      (opens = true → ¬RunsIntoLetter text) ∧ ¬GluedBehind text := by
  induction text generalizing opens offset with
  | nil =>
      refine iff_of_true rfl ⟨fun _ => ?_, not_gluedBehind_nil⟩
      intro h
      rcases h with ⟨number, c, rest, htext, _⟩
      exact absurd htext.symm (by simp)
  | cons c rest ih =>
      have hrest := @ih (isOperatorChar c) (offset + c.utf8Size)
      rw [firstGlued?, gluedBehind_cons, not_or, not_and]
      cases opens with
      | false =>
          rw [if_neg Bool.false_ne_true]
          simp only [hrest, Bool.false_eq_true, false_imp_iff, true_and]
      | true =>
          rw [if_pos rfl, imp_iff_right rfl, ← gluedNumber?_eq_none_iff]
          cases gluedNumber? (c :: rest) with
          | none => simp only [hrest, true_and]
          | some number => simp only [reduceCtorEq, false_and]

theorem firstGlued?_start_eq_none_iff {text : Text} : firstGlued? true 0 text = none ↔ ¬Glued text := by
  rw [firstGlued?_eq_none_iff, imp_iff_right rfl, Glued, not_or]

end Check

/-!
# Neighbours
-/

def Unpaired (run : List Text) : Prop :=
  run.IsChain fun left right => ¬(NumberGroup left ∧ NumberGroup right)

theorem Unpaired.map {f : Text → Text} {run : List Text}
    (hf : ∀ segment ∈ run, NumberGroup (f segment) → NumberGroup segment) (h : Unpaired run) :
    Unpaired (run.map f) := by
  rw [Unpaired, List.isChain_map]
  induction h with
  | nil => exact .nil
  | singleton segment => exact .singleton segment
  | @cons_cons left right rest hpair _ ih =>
      refine .cons_cons ?_ (ih fun segment hsegment => hf segment (List.mem_cons_of_mem _ hsegment))
      intro h
      rcases h with ⟨hleft, hright⟩
      exact hpair ⟨hf left List.mem_cons_self hleft,
        hf right (List.mem_cons_of_mem _ List.mem_cons_self) hright⟩

namespace Piece

theorem ofChar?_eq_and_iff {c : Char} (hc : isSeparator c = true) :
    Operator.ofChar? c = some .and ↔ Operator.ofChar? c ≠ some .or := by
  rw [isSeparator_iff] at hc
  rcases hc with rfl | rfl | rfl | rfl | rfl
  all_goals decide

theorem Alternating.exists_first {pieces : List Piece} (h : Alternating pieces) :
    ∃ segment rest run runs, pieces = .segment segment :: rest ∧
      alternatives pieces = (segment :: run) :: runs := by
  have hfirst : ∃ segment rest, pieces = .segment segment :: rest := by
    cases h with
    | last _ => exact ⟨_, _, rfl⟩
    | cons _ _ _ => exact ⟨_, _, rfl⟩
  rcases hfirst with ⟨segment, rest, rfl⟩
  rw [alternatives]
  cases halts : alternatives rest with
  | nil => exact absurd halts (alternatives_ne_nil rest)
  | cons run runs => exact ⟨segment, rest, run, runs, rfl, rfl⟩

end Piece

namespace Check

open Piece

theorem firstNumberPair?_eq_none_iff {offset : Nat} {pieces : List Piece} (h : Alternating pieces) :
    firstNumberPair? offset pieces = none ↔ ∀ run ∈ alternatives pieces, Unpaired run := by
  induction h generalizing offset with
  | @last segment _ =>
      refine iff_of_true rfl ?_
      intro run hrun
      rw [List.mem_singleton.mp hrun]
      exact .singleton segment
  | @cons left c rest _ hc hrest ih =>
      rcases hrest.exists_first with ⟨right, others, run, runs, rfl, halts⟩
      have hnext := @ih (offset + left.byteSize + c.utf8Size)
      rw [halts, List.forall_mem_cons] at hnext
      rw [firstNumberPair?]
      by_cases hor : Operator.ofChar? c = some .or
      · rw [alternatives_or hor, halts, List.forall_mem_cons, List.forall_mem_cons]
        have hsingle : Unpaired [left] := .singleton left
        simp [hor, hnext, hsingle]
      · rw [alternatives_and hor, halts, List.modifyHead_cons, List.forall_mem_cons]
        have hand := (ofChar?_eq_and_iff hc).mpr hor
        have hpair : Unpaired (left :: right :: run) ↔
            ¬(NumberGroup left ∧ NumberGroup right) ∧ Unpaired (right :: run) :=
          List.isChain_cons_cons
        rw [hpair, and_assoc, ← hnext, ← isNumberGroup_iff, ← isNumberGroup_iff]
        by_cases hboth : isNumberGroup left = true ∧ isNumberGroup right = true
        · simp [hand, hboth]
        · rw [if_neg (by simpa [hand] using hboth), iff_and_self]
          intro _
          exact hboth

end Check

/-!
# The verdict
-/

theorem Piece.avoids_iff_segments {p : Char → Bool}
    (hp : ∀ c, isSeparator c = true → p c = false) (text : Text) :
    Avoids p text ↔ ∀ segment ∈ segments text, Avoids p segment := by
  induction text using induction_on_breaks isSeparator with
  | whole run hrun => simp [segments, ofText_of_avoids hrun, segment?]
  | step run c rest hrun hc ih =>
      rw [avoids_append, avoids_cons, ih, segments_append_separator hc]
      simp [segments, ofText_of_avoids hrun, segment?, hp c hc]

namespace Query

@[mk_iff]
structure Acceptable (text : Text) : Prop where
  blank : ∀ segment ∈ Piece.segments text, Avoids isBlank segment
  unglued : ∀ segment ∈ Piece.segments text, ¬Glued segment
  unpaired : ∀ run ∈ Piece.alternatives (Piece.ofText text), Unpaired run

/-- The check accepts the texts that meet its three conditions, and no other. -/
theorem check_eq_ok_iff {text : Text} : check text = .ok () ↔ Acceptable text := by
  have hseparator : ∀ c, isSeparator c = true → isBlank c = false := by
    intro c hc
    exact isBlank_of_isOperatorChar (isOperatorChar_iff.mpr (Or.inr hc))
  have hblank := @Check.firstBlank?_eq_none_iff 0 text
  rw [Piece.avoids_iff_segments hseparator] at hblank
  have hglued := @Check.firstGlued?_start_eq_none_iff text
  have hpair := @Check.firstNumberPair?_eq_none_iff 0 _ (Piece.alternating_ofText text)
  rw [glued_iff_exists_segment] at hglued
  simp only [not_exists, not_and] at hglued
  constructor
  · intro h
    rw [check] at h
    split at h
    · cases h
    · rename_i hnoBlank
      split at h
      · cases h
      · rename_i hnoGlued
        split at h
        · cases h
        · rename_i hnoPair
          exact ⟨hblank.mp hnoBlank, hglued.mp hnoGlued, hpair.mp hnoPair⟩
  · intro h
    rw [check, hblank.mpr h.blank, hglued.mpr h.unglued, hpair.mpr h.unpaired]

end Query

/-!
# Rewritten segments
-/

namespace Piece

theorem alternatives_map (f : Text → Text) (pieces : List Piece) :
    alternatives (pieces.map (Piece.map f)) = (alternatives pieces).map (List.map f) := by
  induction pieces with
  | nil => rfl
  | cons piece rest ih =>
      cases piece with
      | segment s =>
          rw [List.map_cons, Piece.map, alternatives, alternatives, ih]
          cases alternatives rest with
          | nil => rfl
          | cons run runs => rfl
      | separator c =>
          rw [List.map_cons, Piece.map, alternatives, alternatives, ih]
          split
          · rfl
          · rfl

end Piece

namespace Query

/-- A text that is cut like another one, with its segments rewritten, is judged by what became of them. -/
theorem acceptable_iff_of_rewritten {text other : Text} {f : Text → Text}
    (h : Piece.alternatives (Piece.ofText other) =
      (Piece.alternatives (Piece.ofText text)).map (List.map f)) :
    Acceptable other ↔ (∀ segment ∈ Piece.segments text, Avoids isBlank (f segment)) ∧
      (∀ segment ∈ Piece.segments text, ¬Glued (f segment)) ∧
        ∀ run ∈ Piece.alternatives (Piece.ofText text), Unpaired (run.map f) := by
  have hsegments : Piece.segments other = (Piece.segments text).map f := by
    rw [Piece.segments, ← Piece.flatten_alternatives, h, ← List.map_flatten,
      Piece.flatten_alternatives, Piece.segments]
  rw [acceptable_iff, hsegments, h, List.forall_mem_map, List.forall_mem_map, List.forall_mem_map]

end Query
end Polyquery
