import Polyquery.Proofs.Query.Acceptance

/-!
# The fault that the check reports

The check scans a text three times and stops at the first fault it comes to.  Which fault that is, and at
which byte it shows, can be said without a scan.  White space goes before numbers that run into a letter, and
these go before joined numbers.  Of several places with one fault, the one nearest to the front is reported.
-/

namespace Polyquery

open Text Unicode

/-!
# Places in a text
-/

namespace Text

theorem eq_nil_of_byteSize {text : Text} (h : text.byteSize = 0) : text = [] := by
  cases text with
  | nil => rfl
  | cons c rest =>
      have hpos := c.utf8Size_pos
      rw [byteSize_cons] at h
      omega

theorem eq_of_append_eq_of_byteSize {left right other rest : Text}
    (h : left ++ right = other ++ rest) (hsize : left.byteSize = other.byteSize) :
    left = other ∧ right = rest := by
  rcases List.append_eq_append_iff.mp h with ⟨middle, hother, hright⟩ | ⟨middle, hleft, hrest⟩
  · have hnil : middle = [] := by
      apply eq_nil_of_byteSize
      rw [hother, byteSize_append] at hsize
      omega
    rw [hnil, List.append_nil] at hother
    rw [hnil, List.nil_append] at hright
    exact ⟨hother.symm, hright⟩
  · have hnil : middle = [] := by
      apply eq_nil_of_byteSize
      rw [hleft, byteSize_append] at hsize
      omega
    rw [hnil, List.append_nil] at hleft
    rw [hnil, List.nil_append] at hrest
    exact ⟨hleft, hrest.symm⟩

theorem eq_of_append_break_eq {p : Char → Bool} {left right run rest : Text} {c d : Char}
    (hleft : Avoids p left) (hd : p d = true) (hrun : Avoids p run) (hc : p c = true)
    (h : left ++ d :: right = run ++ c :: rest) : left = run ∧ d :: right = c :: rest := by
  have hkept : ∀ part : Text, Avoids p part → ∀ e ∈ part, (!p e) = true := by
    intro part hpart e he
    rw [hpart e he]
    rfl
  have hstop : ∀ (e : Char) (tail : Text), p e = true → StartsOutside (fun f => !p f) (e :: tail) := by
    intro e tail he
    rw [startsOutside_cons, he]
    rfl
  have htake := congrArg (List.takeWhile fun e => !p e) h
  have hdrop := congrArg (List.dropWhile fun e => !p e) h
  rw [takeWhile_append_run (hkept left hleft) (hstop d right hd),
    takeWhile_append_run (hkept run hrun) (hstop c rest hc)] at htake
  rw [dropWhile_append_run (hkept left hleft) (hstop d right hd),
    dropWhile_append_run (hkept run hrun) (hstop c rest hc)] at hdrop
  exact ⟨htake, hdrop⟩

theorem exists_eq_append_of_endsWith {p : Char → Bool} {run before tail rest : Text} {c d : Char}
    (hrun : Avoids p run) (hd : d ∈ before.getLast?) (hbreak : p d = true)
    (h : run ++ c :: rest = before ++ tail) :
    ∃ near, before = run ++ c :: near ∧ rest = near ++ tail := by
  rcases List.append_eq_append_iff.mp h with ⟨middle, hbefore, hrest⟩ | ⟨middle, hrunSplit, _⟩
  · cases middle with
    | nil =>
        rw [List.append_nil] at hbefore
        rw [hbefore] at hd
        rw [hrun d (List.mem_of_mem_getLast? hd)] at hbreak
        cases hbreak
    | cons e near =>
        rw [List.cons_append] at hrest
        cases hrest
        exact ⟨near, hbefore, rfl⟩
  · have hmem : d ∈ run := by
      rw [hrunSplit]
      exact List.mem_append_left middle (List.mem_of_mem_getLast? hd)
    rw [hrun d hmem] at hbreak
    cases hbreak

end Text

def BlankAt (text : Text) (position : Nat) : Prop :=
  ∃ (before : Text) (c : Char) (rest : Text),
    text = before ++ c :: rest ∧ isBlank c = true ∧ before.byteSize = position

/-- A number group may begin behind this part of a text: it ends with an operator.  If it is empty, `opens`
says so. -/
def opensBehind (opens : Bool) (before : Text) : Bool :=
  (before.getLast?.map isOperatorChar).getD opens

/-- The number group begins at this byte, behind an operator or at the front of a text that `opens`, and it
runs into a letter. -/
def GluedAt (opens : Bool) (text number : Text) (start : Nat) : Prop :=
  ∃ (before : Text) (c : Char) (rest : Text),
    text = before ++ (number ++ c :: rest) ∧ opensBehind opens before = true ∧
      NumberGroup number ∧ isLetter c = true ∧ before.byteSize = start

/-- The conjunction at this byte has the two number groups for its segments, each up to the next separator or
the end of the text. -/
def JoinedAt (text left right : Text) (position : Nat) : Prop :=
  ∃ (before : Text) (c : Char) (after : Text),
    text = before ++ (left ++ c :: (right ++ after)) ∧
      (∀ d ∈ before.getLast?, isSeparator d = true) ∧ Operator.ofChar? c = some .and ∧
        (∀ d ∈ after.head?, isSeparator d = true) ∧ NumberGroup left ∧ NumberGroup right ∧
          before.byteSize + left.byteSize = position

/-- The result that a text deserves. -/
inductive Verdict (text : Text) : Except CheckError Unit → Prop where
  | blank {position : Nat} (h : BlankAt text position)
      (first : ∀ other, BlankAt text other → position ≤ other) :
      Verdict text (.error { fault := .embeddedWhitespace, position := position })
  | glued {number : Text} {start : Nat} (noBlank : ∀ position, ¬BlankAt text position)
      (h : GluedAt true text number start)
      (first : ∀ group other, GluedAt true text group other → start ≤ other) :
      Verdict text
        (.error { fault := .missingOperator number, position := start + number.byteSize })
  | joined {left right : Text} {position : Nat} (noBlank : ∀ position, ¬BlankAt text position)
      (noGlued : ∀ number start, ¬GluedAt true text number start)
      (h : JoinedAt text left right position)
      (first : ∀ one two other, JoinedAt text one two other → position ≤ other) :
      Verdict text (.error { fault := .andBetweenNumbers left right, position := position })
  | accepted (noBlank : ∀ position, ¬BlankAt text position)
      (noGlued : ∀ number start, ¬GluedAt true text number start)
      (noJoined : ∀ left right position, ¬JoinedAt text left right position) :
      Verdict text (.ok ())

/-!
# White space
-/

theorem blankAt_cons {c : Char} {rest : Text} {position : Nat} :
    BlankAt (c :: rest) position ↔
      isBlank c = true ∧ position = 0 ∨
        ∃ place, BlankAt rest place ∧ position = c.utf8Size + place := by
  constructor
  · intro h
    rcases h with ⟨before, d, tail, htext, hblank, rfl⟩
    cases before with
    | nil =>
        cases htext
        exact Or.inl ⟨hblank, rfl⟩
    | cons _ before =>
        cases htext
        exact Or.inr ⟨byteSize before, ⟨before, d, tail, rfl, hblank, rfl⟩, rfl⟩
  · intro h
    rcases h with ⟨hblank, rfl⟩ | ⟨_, ⟨before, d, tail, rfl, hblank, rfl⟩, rfl⟩
    · exact ⟨[], c, rest, rfl, hblank, rfl⟩
    · exact ⟨c :: before, d, tail, rfl, hblank, rfl⟩

theorem avoids_isBlank_iff {text : Text} :
    Avoids isBlank text ↔ ∀ position, ¬BlankAt text position := by
  constructor
  · intro h position hblank
    rcases hblank with ⟨before, c, rest, rfl, hc, _⟩
    rw [h c (List.mem_append_right before List.mem_cons_self)] at hc
    cases hc
  · intro h
    by_contra hnot
    rcases eq_append_of_not_avoids hnot with ⟨before, c, rest, htext, _, hc⟩
    exact h (byteSize before) ⟨before, c, rest, htext, hc, rfl⟩

namespace Check

theorem blankAt_of_firstBlank? {offset position : Nat} {text : Text}
    (h : firstBlank? offset text = some position) :
    ∃ place, position = offset + place ∧ BlankAt text place ∧
      ∀ other, BlankAt text other → place ≤ other := by
  induction text generalizing offset with
  | nil => cases h
  | cons c rest ih =>
      rw [firstBlank?] at h
      split at h
      · rename_i hblank
        cases h
        exact ⟨0, rfl, blankAt_cons.mpr (Or.inl ⟨hblank, rfl⟩), fun _ _ => Nat.zero_le _⟩
      · rename_i hblank
        rcases ih h with ⟨place, hposition, hplace, hfirst⟩
        refine ⟨c.utf8Size + place, by omega, blankAt_cons.mpr (Or.inr ⟨place, hplace, rfl⟩), ?_⟩
        intro other hother
        rcases blankAt_cons.mp hother with ⟨hc, _⟩ | ⟨behind, hbehind, rfl⟩
        · exact absurd hc hblank
        · exact Nat.add_le_add_left (hfirst behind hbehind) c.utf8Size

end Check

/-!
# Numbers that run into a letter
-/

theorem opensBehind_cons (opens : Bool) (c : Char) (before : Text) :
    opensBehind opens (c :: before) = opensBehind (isOperatorChar c) before := by
  cases before with
  | nil => rfl
  | cons d rest => rw [opensBehind, opensBehind, List.getLast?_cons_cons]; rfl

theorem gluedAt_cons {opens : Bool} {c : Char} {rest number : Text} {start : Nat} :
    GluedAt opens (c :: rest) number start ↔
      opens = true ∧ Check.gluedNumber? (c :: rest) = some number ∧ start = 0 ∨
        ∃ place, GluedAt (isOperatorChar c) rest number place ∧ start = c.utf8Size + place := by
  constructor
  · intro h
    rcases h with ⟨before, d, tail, htext, hopens, hgroup, hletter, rfl⟩
    cases before with
    | nil =>
        refine Or.inl ⟨hopens, ?_, rfl⟩
        exact Check.gluedNumber?_eq_some_iff.mpr ⟨hgroup, d, tail, htext, hletter⟩
    | cons _ before =>
        cases htext
        rw [opensBehind_cons] at hopens
        exact Or.inr
          ⟨byteSize before, ⟨before, d, tail, rfl, hopens, hgroup, hletter, rfl⟩, rfl⟩
  · intro h
    rcases h with ⟨hopens, hglued, rfl⟩ | ⟨_, ⟨before, d, tail, rfl, hopens, hgroup, hletter, rfl⟩, rfl⟩
    · rcases Check.gluedNumber?_eq_some_iff.mp hglued with ⟨hgroup, d, tail, htext, hletter⟩
      exact ⟨[], d, tail, htext, hopens, hgroup, hletter, rfl⟩
    · rw [← opensBehind_cons opens] at hopens
      exact ⟨c :: before, d, tail, rfl, hopens, hgroup, hletter, rfl⟩

theorem GluedAt.unique {opens : Bool} {text number other : Text} {start : Nat}
    (h : GluedAt opens text number start) (hother : GluedAt opens text other start) :
    number = other := by
  rcases h with ⟨before, c, rest, htext, _, hgroup, hletter, hstart⟩
  rcases hother with ⟨front, d, tail, htail, _, hotherGroup, hotherLetter, hplace⟩
  have hsplit := eq_of_append_eq_of_byteSize (htext.symm.trans htail) (hstart.trans hplace.symm)
  have hnumber := Check.gluedNumber?_eq_some_iff.mpr ⟨hgroup, c, rest, rfl, hletter⟩
  rw [hsplit.right, Check.gluedNumber?_eq_some_iff.mpr ⟨hotherGroup, d, tail, rfl, hotherLetter⟩]
    at hnumber
  exact (Option.some.inj hnumber).symm

namespace Check

theorem not_gluedAt_of_firstGlued? {opens : Bool} {offset : Nat} {text : Text}
    (h : firstGlued? opens offset text = none) (number : Text) (start : Nat) :
    ¬GluedAt opens text number start := by
  induction text generalizing opens offset start with
  | nil =>
      intro hglued
      rcases hglued with ⟨before, c, rest, htext, _⟩
      exact absurd htext.symm (by simp)
  | cons c rest ih =>
      rw [firstGlued?] at h
      split at h
      · cases h
      · rename_i hfront
        intro hglued
        rcases gluedAt_cons.mp hglued with ⟨rfl, hnumber, _⟩ | ⟨place, hplace, _⟩
        · rw [if_pos rfl, hnumber] at hfront
          cases hfront
        · exact ih h place hplace

theorem gluedAt_of_firstGlued? {opens : Bool} {offset position : Nat} {text number : Text}
    (h : firstGlued? opens offset text = some (number, position)) :
    ∃ start, position = offset + (start + number.byteSize) ∧ GluedAt opens text number start ∧
      ∀ group other, GluedAt opens text group other → start ≤ other := by
  induction text generalizing opens offset with
  | nil => cases h
  | cons c rest ih =>
      rw [firstGlued?] at h
      split at h
      · rename_i found hfront
        cases h
        cases opens with
        | false => cases hfront
        | true =>
            refine ⟨0, by omega, gluedAt_cons.mpr (Or.inl ⟨rfl, hfront, rfl⟩), ?_⟩
            intro _ other _
            exact Nat.zero_le other
      · rename_i hfront
        rcases ih h with ⟨start, hposition, hstart, hfirst⟩
        refine ⟨c.utf8Size + start, by omega, gluedAt_cons.mpr (Or.inr ⟨start, hstart, rfl⟩), ?_⟩
        intro group other hother
        rcases gluedAt_cons.mp hother with ⟨rfl, hnumber, _⟩ | ⟨place, hplace, rfl⟩
        · rw [if_pos rfl, hnumber] at hfront
          cases hfront
        · exact Nat.add_le_add_left (hfirst group place hplace) c.utf8Size

end Check

/-!
# Joined numbers
-/

def Piece.firstSegment (text : Text) : Text :=
  text.takeWhile fun c => !isSeparator c

theorem Piece.exists_ofText_eq (text : Text) :
    ∃ others, ofText text = .segment (firstSegment text) :: others := by
  have hkept : ∀ run : Text, Avoids isSeparator run → ∀ c ∈ run, (!isSeparator c) = true := by
    intro run hrun c hc
    rw [hrun c hc]
    rfl
  induction text using induction_on_breaks isSeparator with
  | whole run hrun =>
      rw [ofText_of_avoids hrun, firstSegment, List.takeWhile_eq_self_iff.mpr (hkept run hrun)]
      exact ⟨_, rfl⟩
  | step run c rest hrun hc _ =>
      have hstop : StartsOutside (fun d => !isSeparator d) (c :: rest) := by
        rw [startsOutside_cons, hc]
        rfl
      rw [ofText_segment_append hrun hc, firstSegment, takeWhile_append_run (hkept run hrun) hstop]
      exact ⟨_, rfl⟩

theorem NumberGroup.avoids_isSeparator {number : Text} (h : NumberGroup number) :
    Avoids isSeparator number := by
  intro c hc
  cases hseparator : isSeparator c with
  | false => rfl
  | true =>
      have hgroup := isGroupChar_of_isOperatorChar (isOperatorChar_iff.mpr (Or.inr hseparator))
      rw [h.isGroupChar hc] at hgroup
      cases hgroup

theorem isSeparator_of_and {c : Char} (h : Operator.ofChar? c = some .and) :
    isSeparator c = true := by
  rw [isSeparator, h]
  rfl

theorem firstSegment_append {number after : Text} (hnumber : NumberGroup number)
    (hafter : ∀ d ∈ after.head?, isSeparator d = true) :
    Piece.firstSegment (number ++ after) = number := by
  apply takeWhile_append_run
  · intro c hc
    rw [hnumber.avoids_isSeparator c hc]
    rfl
  · intro d hd
    rw [Bool.not_eq_false']
    exact hafter d hd

theorem not_joinedAt_of_avoids {text left right : Text} {position : Nat}
    (h : Avoids isSeparator text) : ¬JoinedAt text left right position := by
  intro hjoined
  rcases hjoined with ⟨before, c, after, rfl, _, hand, _⟩
  have hc := (avoids_cons.mp (avoids_append.mp (avoids_append.mp h).right).right).left
  rw [isSeparator_of_and hand] at hc
  cases hc

theorem joinedAt_append_separator {run rest left right : Text} {c : Char} {position : Nat}
    (hrun : Avoids isSeparator run) (hc : isSeparator c = true) :
    JoinedAt (run ++ c :: rest) left right position ↔
      (Operator.ofChar? c = some .and ∧ NumberGroup run ∧ NumberGroup (Piece.firstSegment rest) ∧
        left = run ∧ right = Piece.firstSegment rest ∧ position = run.byteSize) ∨
        ∃ place, JoinedAt rest left right place ∧
          position = run.byteSize + c.utf8Size + place := by
  constructor
  · intro h
    rcases h with ⟨before, d, after, htext, hbefore, hand, hafter, hleft, hright, rfl⟩
    cases hlast : before.getLast? with
    | none =>
        -- the left number reaches to the front, so it is the first segment
        have hnil : before = [] := List.getLast?_eq_none_iff.mp hlast
        rw [hnil, List.nil_append] at htext
        rcases eq_of_append_break_eq hrun hc hleft.avoids_isSeparator (isSeparator_of_and hand)
          htext with ⟨rfl, htail⟩
        cases htail
        rw [hnil, firstSegment_append hright hafter, byteSize_nil, Nat.zero_add]
        exact Or.inl ⟨hand, hleft, hright, rfl, rfl, rfl⟩
    | some e =>
        rcases exists_eq_append_of_endsWith hrun hlast (hbefore e hlast) htext with
          ⟨near, rfl, rfl⟩
        refine Or.inr ⟨byteSize near + byteSize left,
          ⟨near, d, after, rfl, ?_, hand, hafter, hleft, hright, rfl⟩, ?_⟩
        · intro f hf
          apply hbefore f
          rw [List.getLast?_append, List.getLast?_cons]
          rw [Option.mem_def.mp hf]
          rfl
        · simp only [byteSize_append, byteSize_cons]
          omega
  · intro h
    rcases h with ⟨hand, hleft, hright, rfl, rfl, rfl⟩ |
      ⟨_, ⟨near, d, after, rfl, hnear, hand, hafter, hleft, hright, rfl⟩, rfl⟩
    · refine ⟨[], c, rest.dropWhile fun d => !isSeparator d, ?_, by simp, hand, ?_, hleft, hright,
        by simp⟩
      · rw [Piece.firstSegment, List.takeWhile_append_dropWhile, List.nil_append]
      · intro d hd
        have hstop := startsOutside_dropWhile (fun d => !isSeparator d) rest d hd
        rw [Bool.not_eq_false'] at hstop
        exact hstop
    · refine ⟨run ++ c :: near, d, after, by simp, ?_, hand, hafter, hleft, hright, ?_⟩
      · intro e he
        rw [List.getLast?_append, List.getLast?_cons] at he
        cases hlast : near.getLast? with
        | none =>
            rw [hlast] at he
            cases he
            exact hc
        | some f =>
            rw [hlast] at he
            cases he
            exact hnear _ hlast
      · simp only [byteSize_append, byteSize_cons]
        omega

theorem JoinedAt.unique {text left right one two : Text} {position : Nat}
    (h : JoinedAt text left right position) (hother : JoinedAt text one two position) :
    left = one ∧ right = two := by
  induction text using induction_on_breaks isSeparator generalizing position with
  | whole run hrun => exact absurd h (not_joinedAt_of_avoids hrun)
  | step run c rest hrun hc ih =>
      have hsize := c.utf8Size_pos
      rcases (joinedAt_append_separator hrun hc).mp h with
        ⟨_, _, _, rfl, rfl, rfl⟩ | ⟨place, hplace, rfl⟩
      · rcases (joinedAt_append_separator hrun hc).mp hother with
          ⟨_, _, _, rfl, rfl, _⟩ | ⟨place, _, hposition⟩
        · exact ⟨rfl, rfl⟩
        · omega
      · rcases (joinedAt_append_separator hrun hc).mp hother with
          ⟨_, _, _, _, _, hposition⟩ | ⟨otherPlace, hotherPlace, hposition⟩
        · omega
        · have hsame : otherPlace = place := by omega
          rw [hsame] at hotherPlace
          exact ih hplace hotherPlace

namespace Check

theorem firstNumberPair?_append_separator {offset : Nat} {run rest : Text} {c : Char}
    (hrun : Avoids isSeparator run) (hc : isSeparator c = true) :
    firstNumberPair? offset (Piece.ofText (run ++ c :: rest)) =
      if Operator.ofChar? c = some .and && isNumberGroup run &&
          isNumberGroup (Piece.firstSegment rest) then
        some (run, Piece.firstSegment rest, offset + run.byteSize)
      else firstNumberPair? (offset + run.byteSize + c.utf8Size) (Piece.ofText rest) := by
  rcases Piece.exists_ofText_eq rest with ⟨others, hothers⟩
  rw [Piece.ofText_segment_append hrun hc, hothers, firstNumberPair?]

theorem joined_iff {c : Char} {run rest : Text} :
    (Operator.ofChar? c = some .and && isNumberGroup run &&
      isNumberGroup (Piece.firstSegment rest)) = true ↔
        Operator.ofChar? c = some .and ∧ NumberGroup run ∧
          NumberGroup (Piece.firstSegment rest) := by
  rw [Bool.and_eq_true, Bool.and_eq_true, decide_eq_true_iff, isNumberGroup_iff, isNumberGroup_iff,
    and_assoc]

theorem not_joinedAt_of_firstNumberPair? {offset : Nat} {text : Text}
    (h : firstNumberPair? offset (Piece.ofText text) = none) (left right : Text) (position : Nat) :
    ¬JoinedAt text left right position := by
  induction text using induction_on_breaks isSeparator generalizing offset position with
  | whole run hrun => exact not_joinedAt_of_avoids hrun
  | step run c rest hrun hc ih =>
      rw [firstNumberPair?_append_separator hrun hc] at h
      split at h
      · cases h
      · rename_i hfront
        rw [joined_iff] at hfront
        intro hjoined
        rcases (joinedAt_append_separator hrun hc).mp hjoined with
          ⟨hand, hleft, hright, _⟩ | ⟨place, hplace, _⟩
        · exact hfront ⟨hand, hleft, hright⟩
        · exact ih h place hplace

theorem joinedAt_of_firstNumberPair? {offset position : Nat} {text left right : Text}
    (h : firstNumberPair? offset (Piece.ofText text) = some (left, right, position)) :
    ∃ place, position = offset + place ∧ JoinedAt text left right place ∧
      ∀ one two other, JoinedAt text one two other → place ≤ other := by
  induction text using induction_on_breaks isSeparator generalizing offset with
  | whole run hrun =>
      rw [Piece.ofText_of_avoids hrun] at h
      cases h
  | step run c rest hrun hc ih =>
      rw [firstNumberPair?_append_separator hrun hc] at h
      split at h
      · rename_i hfront
        rw [joined_iff] at hfront
        cases h
        refine ⟨byteSize left, rfl, (joinedAt_append_separator hrun hc).mpr (Or.inl
          ⟨hfront.left, hfront.right.left, hfront.right.right, rfl, rfl, rfl⟩), ?_⟩
        intro one two other hother
        rcases (joinedAt_append_separator hrun hc).mp hother with
          ⟨_, _, _, _, _, rfl⟩ | ⟨place, _, rfl⟩
        · exact Nat.le_refl _
        · omega
      · rename_i hfront
        rw [joined_iff] at hfront
        rcases ih h with ⟨place, hposition, hplace, hfirst⟩
        refine ⟨byteSize run + c.utf8Size + place, by omega,
          (joinedAt_append_separator hrun hc).mpr (Or.inr ⟨place, hplace, rfl⟩), ?_⟩
        intro one two other hother
        rcases (joinedAt_append_separator hrun hc).mp hother with
          ⟨hand, hleft, hright, _⟩ | ⟨behind, hbehind, rfl⟩
        · exact absurd ⟨hand, hleft, hright⟩ hfront
        · exact Nat.add_le_add_left (hfirst one two behind hbehind) _

end Check

/-!
# The verdict
-/

theorem Verdict.unique {text : Text} {result other : Except CheckError Unit}
    (h : Verdict text result) (hother : Verdict text other) : result = other := by
  cases h with
  | blank hblank hfirst =>
      cases hother with
      | blank hplace hleast => rw [Nat.le_antisymm (hfirst _ hplace) (hleast _ hblank)]
      | glued noBlank _ _ => exact absurd hblank (noBlank _)
      | joined noBlank _ _ _ => exact absurd hblank (noBlank _)
      | accepted noBlank _ _ => exact absurd hblank (noBlank _)
  | glued noBlank hglued hfirst =>
      cases hother with
      | blank hplace _ => exact absurd hplace (noBlank _)
      | glued _ hplace hleast =>
          have hstart := Nat.le_antisymm (hfirst _ _ hplace) (hleast _ _ hglued)
          rw [← hstart] at hplace
          rw [hglued.unique hplace, hstart]
      | joined _ noGlued _ _ => exact absurd hglued (noGlued _ _)
      | accepted _ noGlued _ => exact absurd hglued (noGlued _ _)
  | joined noBlank noGlued hjoined hfirst =>
      cases hother with
      | blank hplace _ => exact absurd hplace (noBlank _)
      | glued _ hplace _ => exact absurd hplace (noGlued _ _)
      | joined _ _ hplace hleast =>
          have hposition := Nat.le_antisymm (hfirst _ _ _ hplace) (hleast _ _ _ hjoined)
          rw [← hposition] at hplace
          rcases hjoined.unique hplace with ⟨rfl, rfl⟩
          rw [hposition]
      | accepted _ _ noJoined => exact absurd hjoined (noJoined _ _ _)
  | accepted noBlank noGlued noJoined =>
      cases hother with
      | blank hplace _ => exact absurd hplace (noBlank _)
      | glued _ hplace _ => exact absurd hplace (noGlued _ _)
      | joined _ _ hplace _ => exact absurd hplace (noJoined _ _ _)
      | accepted _ _ _ => rfl

namespace Query

theorem verdict_check (text : Text) : Verdict text (check text) := by
  rw [check]
  cases hblank : Check.firstBlank? 0 text with
  | some position =>
      rcases Check.blankAt_of_firstBlank? hblank with ⟨place, hposition, hplace, hfirst⟩
      rw [Nat.zero_add] at hposition
      rw [hposition]
      exact .blank hplace hfirst
  | none =>
      have noBlank := avoids_isBlank_iff.mp (Check.firstBlank?_eq_none_iff.mp hblank)
      cases hglued : Check.firstGlued? true 0 text with
      | some found =>
          rcases found with ⟨number, position⟩
          rcases Check.gluedAt_of_firstGlued? hglued with ⟨start, hposition, hstart, hfirst⟩
          rw [Nat.zero_add] at hposition
          rw [hposition]
          exact .glued noBlank hstart hfirst
      | none =>
          have noGlued := Check.not_gluedAt_of_firstGlued? hglued
          cases hjoined : Check.firstNumberPair? 0 (Piece.ofText text) with
          | some found =>
              rcases found with ⟨left, right, position⟩
              rcases Check.joinedAt_of_firstNumberPair? hjoined with
                ⟨place, hposition, hplace, hfirst⟩
              rw [Nat.zero_add] at hposition
              simp only [hposition]
              exact .joined noBlank noGlued hplace hfirst
          | none =>
              exact .accepted noBlank noGlued (Check.not_joinedAt_of_firstNumberPair? hjoined)

/-- The check gives the result that a text deserves, and no other one. -/
theorem check_eq_iff_verdict (text : Text) (result : Except CheckError Unit) :
    check text = result ↔ Verdict text result := by
  constructor
  · intro h
    rw [← h]
    exact verdict_check text
  · intro h
    exact (verdict_check text).unique h

end Query
end Polyquery
