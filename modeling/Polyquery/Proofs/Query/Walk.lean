import Mathlib.Data.List.Induction
import Polyquery.Proofs.Query.Pieces
import Polyquery.Proofs.Text.Slices
import Polyquery.Text.Utf8

/-!
# Walks along a query

The pieces of a query can be asked for one by one.  Between two calls a cursor keeps the text behind the last
separator that it found, that separator until it is given out, and whether the last segment has been given out.
Call after call gives the next piece of the query, and behind the last piece nothing, however often it is asked.

No other list of pieces could have been given out: a query has one decomposition into segments without
separators and single separators between them.
-/

namespace Polyquery

namespace Text

theorem toUtf8_injective : Function.Injective toUtf8 := by
  intro left right h
  have hright := ofUtf8?_toUtf8 right
  rw [← h, ofUtf8?_toUtf8] at hright
  exact Option.some.inj hright

theorem toUtf8_flatMap {α : Type} (f : α → Text) (items : List α) :
    toUtf8 (items.flatMap f) = items.flatMap fun item => toUtf8 (f item) :=
  List.flatMap_assoc

end Text

namespace Piece

open Text

/-!
# Decompositions
-/

def separatorMarks : Text :=
  ['&', '|', ',', ';', ':']

def isSegment (piece : Piece) : Bool :=
  piece.segment?.isSome

structure TakesTurns (pieces : List Piece) : Prop where
  first : ∃ s, pieces.head? = some (.segment s)
  last : ∃ s, pieces.getLast? = some (.segment s)
  neighbours : pieces.IsChain fun piece next => piece.isSegment ≠ next.isSegment
  separators : ∀ c, .separator c ∈ pieces → c ∈ separatorMarks
  segments : ∀ s, .segment s ∈ pieces → ∀ c ∈ s, c ∉ separatorMarks

/-- The pieces take turns, and written one behind the other they are the query, byte for byte. -/
structure Decomposes (query : Text) (pieces : List Piece) : Prop extends TakesTurns pieces where
  lossless : (pieces.flatMap fun piece => toUtf8 piece.text) = toUtf8 query

theorem mem_separatorMarks {c : Char} : c ∈ separatorMarks ↔ isSeparator c = true := by
  rw [isSeparator_iff]
  simp [separatorMarks]

theorem avoids_isSeparator_iff {s : Text} :
    Avoids isSeparator s ↔ ∀ c ∈ s, c ∉ separatorMarks := by
  simp only [Avoids, mem_separatorMarks, Bool.not_eq_true]

theorem TakesTurns.of_cons_cons {s : Text} {c : Char} {rest : List Piece}
    (h : TakesTurns (.segment s :: .separator c :: rest)) : TakesTurns rest := by
  cases rest with
  | nil =>
      rcases h.last with ⟨t, ht⟩
      cases ht
  | cons piece rest =>
      have hchain := (List.isChain_cons_cons.mp h.neighbours).right
      rcases List.isChain_cons_cons.mp hchain with ⟨hnext, hrest⟩
      constructor
      · cases piece with
        | segment t => exact ⟨t, rfl⟩
        | separator d => exact absurd rfl hnext
      · have hlast := h.last
        rw [List.getLast?_cons_cons, List.getLast?_cons_cons] at hlast
        exact hlast
      · exact hrest
      · intro d hd
        exact h.separators d (List.mem_cons_of_mem _ (List.mem_cons_of_mem _ hd))
      · intro t ht
        exact h.segments t (List.mem_cons_of_mem _ (List.mem_cons_of_mem _ ht))

theorem TakesTurns.alternating {pieces : List Piece} (h : TakesTurns pieces) :
    Alternating pieces := by
  -- two pieces at a time, a segment and the separator behind it
  induction pieces using List.twoStepInduction with
  | nil =>
      rcases h.first with ⟨s, hs⟩
      cases hs
  | singleton piece =>
      rcases h.first with ⟨s, hs⟩
      cases hs
      exact .last (avoids_isSeparator_iff.mpr (h.segments s List.mem_cons_self))
  | cons_cons piece next rest ih _ =>
      rcases h.first with ⟨s, hs⟩
      cases hs
      have hturn := (List.isChain_cons_cons.mp h.neighbours).left
      cases next with
      | segment t => exact absurd rfl hturn
      | separator c =>
          have hc := h.separators c (List.mem_cons_of_mem _ List.mem_cons_self)
          refine .cons ?_ (mem_separatorMarks.mp hc) (ih h.of_cons_cons)
          exact avoids_isSeparator_iff.mpr (h.segments s List.mem_cons_self)

theorem Alternating.isSeparator {pieces : List Piece} (h : Alternating pieces) {c : Char}
    (hc : .separator c ∈ pieces) : isSeparator c = true := by
  induction h with
  | last _ => cases List.mem_singleton.mp hc
  | cons _ hfirst _ ih =>
      rcases List.mem_cons.mp hc with heq | hc
      · cases heq
      · rcases List.mem_cons.mp hc with heq | hc
        · cases heq
          exact hfirst
        · exact ih hc

theorem Alternating.exists_head? {pieces : List Piece} (h : Alternating pieces) :
    ∃ s, pieces.head? = some (.segment s) := by
  cases h with
  | last _ => exact ⟨_, rfl⟩
  | cons _ _ _ => exact ⟨_, rfl⟩

theorem Alternating.exists_getLast? {pieces : List Piece} (h : Alternating pieces) :
    ∃ s, pieces.getLast? = some (.segment s) := by
  induction h with
  | last _ => exact ⟨_, rfl⟩
  | cons _ _ hrest ih =>
      rcases hrest.exists_head? with ⟨t, ht⟩
      rcases List.head?_eq_some_iff.mp ht with ⟨tail, rfl⟩
      rw [List.getLast?_cons_cons, List.getLast?_cons_cons]
      exact ih

theorem Alternating.isChain {pieces : List Piece} (h : Alternating pieces) :
    pieces.IsChain fun piece next => piece.isSegment ≠ next.isSegment := by
  induction h with
  | last _ => exact .singleton _
  | cons _ _ hrest ih =>
      rcases hrest.exists_head? with ⟨t, ht⟩
      rcases List.head?_eq_some_iff.mp ht with ⟨tail, rfl⟩
      refine List.isChain_cons_cons.mpr ⟨?_, List.isChain_cons_cons.mpr ⟨?_, ih⟩⟩
      · exact Bool.false_ne_true.symm
      · exact Bool.false_ne_true

theorem takesTurns_iff {pieces : List Piece} : TakesTurns pieces ↔ Alternating pieces := by
  constructor
  · exact TakesTurns.alternating
  · intro h
    refine ⟨h.exists_head?, h.exists_getLast?, h.isChain, ?_, ?_⟩
    · intro c hc
      exact mem_separatorMarks.mpr (h.isSeparator hc)
    · intro s hs
      exact avoids_isSeparator_iff.mp (h.avoids hs)

/-- The pieces of a query are its only decomposition. -/
theorem decomposes_iff {query : Text} {pieces : List Piece} :
    Decomposes query pieces ↔ pieces = ofText query := by
  constructor
  · intro h
    have hjoined : joined pieces = query := by
      apply toUtf8_injective
      rw [joined, toUtf8_flatMap]
      exact h.lossless
    rw [← hjoined]
    exact (ofText_joined h.alternating).symm
  · rintro rfl
    refine ⟨takesTurns_iff.mpr (alternating_ofText query), ?_⟩
    rw [← toUtf8_flatMap]
    exact congrArg toUtf8 (joined_ofText query)

namespace Cursor

/-!
# One call
-/

/-- What one call does, by the state of the cursor. -/
inductive Step : Cursor → Option Piece → Cursor → Prop where
  | separator {rest : Text} {c : Char} {done : Bool} :
      Step ⟨rest, some c, done⟩ (some (.separator c)) ⟨rest, none, done⟩
  | segment {run : Text} {c : Char} {rest : Text} (hrun : Avoids isSeparator run)
      (hc : isSeparator c = true) :
      Step ⟨run ++ c :: rest, none, false⟩ (some (.segment run)) ⟨rest, some c, false⟩
  | last {run : Text} (hrun : Avoids isSeparator run) :
      Step ⟨run, none, false⟩ (some (.segment run)) ⟨run, none, true⟩
  | ended {rest : Text} : Step ⟨rest, none, true⟩ none ⟨rest, none, true⟩

theorem step_next (cursor : Cursor) : Step cursor cursor.next.1 cursor.next.2 := by
  rcases cursor with ⟨rest, pending, done⟩
  cases pending with
  | some c => exact .separator
  | none =>
      cases done with
      | true => exact .ended
      | false =>
          by_cases hrest : Avoids isSeparator rest
          · have hall : ∀ c ∈ rest, (!isSeparator c) = true := by simpa [Avoids] using hrest
            have htake := List.takeWhile_eq_self_iff.mpr hall
            have hdrop := List.dropWhile_eq_nil_iff.mpr hall
            simp only [next, htake, hdrop]
            exact .last hrest
          · rcases eq_append_of_not_avoids hrest with ⟨run, c, tail, rfl, hrun, hc⟩
            have hall : ∀ c ∈ run, (!isSeparator c) = true := by simpa [Avoids] using hrun
            have hbreak : StartsOutside (fun c => !isSeparator c) (c :: tail) := by
              rw [startsOutside_cons, hc]
              rfl
            simp only [next, takeWhile_append_run hall hbreak, dropWhile_append_run hall hbreak]
            exact .segment hrun hc

variable {cursor after : Cursor} {answer : Option Piece}

/-!
# What is left
-/

def remaining (cursor : Cursor) : List Piece :=
  cursor.pending.toList.map .separator ++ if cursor.done then [] else ofText cursor.rest

def unread (cursor : Cursor) : Text :=
  cursor.pending.toList ++ if cursor.done then [] else cursor.rest

theorem remaining_start (query : Text) : (start query).remaining = ofText query := rfl

theorem joined_remaining (cursor : Cursor) : joined cursor.remaining = cursor.unread := by
  rcases cursor with ⟨rest, pending, done⟩
  have hrest : joined (if done then [] else ofText rest) = if done then [] else rest := by
    cases done with
    | true => rfl
    | false => exact joined_ofText rest
  cases pending with
  | none => exact hrest
  | some c => exact congrArg (List.cons c) hrest

theorem Step.takes_first (h : Step cursor answer after) :
    answer = cursor.remaining.head? ∧ after.remaining = cursor.remaining.tail := by
  cases h with
  | separator => exact ⟨rfl, rfl⟩
  | @segment run c rest hrun hc =>
      have hpieces : Cursor.remaining ⟨run ++ c :: rest, none, false⟩ =
          .segment run :: .separator c :: ofText rest := ofText_segment_append hrun hc rest
      rw [hpieces]
      exact ⟨rfl, rfl⟩
  | @last run hrun =>
      have hpieces : Cursor.remaining ⟨run, none, false⟩ = [.segment run] := ofText_of_avoids hrun
      rw [hpieces]
      exact ⟨rfl, rfl⟩
  | ended => exact ⟨rfl, rfl⟩

/-- What a cursor keeps fits together: what is pending is a separator, and behind the last segment nothing is
pending and the rest has no separator. -/
structure Consistent (cursor : Cursor) : Prop where
  pending : ∀ c ∈ cursor.pending, isSeparator c = true ∧ cursor.done = false
  done : cursor.done = true → Avoids isSeparator cursor.rest

theorem consistent_start (query : Text) : (start query).Consistent where
  pending := by
    intro c hc
    cases hc
  done := by
    intro hdone
    cases hdone

theorem Step.consistent (h : Step cursor answer after) (hcursor : cursor.Consistent) :
    after.Consistent := by
  cases h with
  | separator =>
      refine ⟨?_, hcursor.done⟩
      intro d hd
      cases hd
  | segment _ hc =>
      refine ⟨?_, ?_⟩
      · intro d hd
        cases hd
        exact ⟨hc, rfl⟩
      · intro hdone
        cases hdone
  | last hrun =>
      refine ⟨?_, fun _ => hrun⟩
      intro d hd
      cases hd
  | ended => exact hcursor

/-!
# Slices
-/

/-- The byte at which the first separator of a text stands, and the separator.  The text begins at byte
`place`. -/
def firstSeparator? (place : Nat) : Text → Option (Nat × Char)
  | [] => none
  | c :: rest =>
    if isSeparator c then some (place, c) else firstSeparator? (place + c.utf8Size) rest

/-- The next piece and the place behind it, with the rest of the query cut at bytes.  There is no result if a
slice could not be taken. -/
def sliceNext? (cursor : Cursor) : Option (Option Piece × Cursor) :=
  match cursor.pending with
  | some c => some (some (.separator c), { cursor with pending := none })
  | none =>
    if cursor.done then some (none, cursor)
    else
      match firstSeparator? 0 cursor.rest with
      | some (place, c) => do
        let segment ← slice? 0 place cursor.rest
        let rest ← tailAt? (place + c.utf8Size) cursor.rest
        return (some (.segment segment), { cursor with rest := rest, pending := some c })
      | none => some (some (.segment cursor.rest), { cursor with done := true })

theorem firstSeparator?_of_avoids {text : Text} (h : Avoids isSeparator text) (place : Nat) :
    firstSeparator? place text = none := by
  induction text generalizing place with
  | nil => rfl
  | cons c rest ih =>
      rcases avoids_cons.mp h with ⟨hc, hrest⟩
      rw [firstSeparator?, hc, if_neg Bool.false_ne_true, ih hrest]

theorem firstSeparator?_append {run : Text} (hrun : Avoids isSeparator run) {c : Char}
    (hc : isSeparator c = true) (place : Nat) (rest : Text) :
    firstSeparator? place (run ++ c :: rest) = some (place + byteSize run, c) := by
  induction run generalizing place with
  | nil => rw [List.nil_append, firstSeparator?, if_pos hc, byteSize_nil, Nat.add_zero]
  | cons d tail ih =>
      rcases avoids_cons.mp hrun with ⟨hd, htail⟩
      rw [List.cons_append, firstSeparator?, hd, if_neg Bool.false_ne_true, ih htail, byteSize_cons,
        Nat.add_assoc]

theorem Step.sliceNext?_eq (h : Step cursor answer after) :
    cursor.sliceNext? = some (answer, after) := by
  cases h with
  | separator => rfl
  | @segment run c rest hrun hc =>
      have hfirst := firstSeparator?_append hrun hc 0 rest
      have hbreak : tailAt? (byteSize run) (run ++ c :: rest) = some ([c] ++ rest) :=
        tailAt?_append run (c :: rest)
      have htail : tailAt? (byteSize run + c.utf8Size) (run ++ c :: rest) = some rest :=
        tailAt?_add hbreak
      rw [Nat.zero_add] at hfirst
      simp only [Cursor.sliceNext?, hfirst, slice?_zero, htail]
      rfl
  | @last run hrun =>
      simp only [Cursor.sliceNext?, firstSeparator?_of_avoids hrun]
      rfl
  | ended => rfl

/-!
# Any number of calls
-/

def calls : Nat → Cursor → List (Option Piece) × Cursor
  | 0, cursor => ([], cursor)
  | n + 1, cursor =>
    let (answers, last) := calls n cursor.next.2
    (cursor.next.1 :: answers, last)

def sliceCalls? : Nat → Cursor → Option (List (Option Piece) × Cursor)
  | 0, cursor => some ([], cursor)
  | n + 1, cursor => do
    let (answer, after) ← cursor.sliceNext?
    let (answers, last) ← sliceCalls? n after
    return (answer :: answers, last)

theorem sliceCalls?_eq (n : Nat) (cursor : Cursor) :
    cursor.sliceCalls? n = some (cursor.calls n) := by
  induction n generalizing cursor with
  | zero => rfl
  | succ n ih =>
      simp only [sliceCalls?, (step_next cursor).sliceNext?_eq, Option.bind_eq_bind,
        Option.bind_some, ih]
      rfl

theorem consistent_calls (n : Nat) (hcursor : cursor.Consistent) :
    (cursor.calls n).2.Consistent := by
  induction n generalizing cursor with
  | zero => exact hcursor
  | succ n ih => exact ih ((step_next cursor).consistent hcursor)

theorem remaining_calls (n : Nat) (cursor : Cursor) :
    (cursor.calls n).2.remaining = cursor.remaining.drop n := by
  induction n generalizing cursor with
  | zero => rfl
  | succ n ih =>
      have htail := (step_next cursor).takes_first.right
      have h := ih cursor.next.2
      rw [htail, List.drop_tail] at h
      exact h

theorem answers_calls (n : Nat) (cursor : Cursor) :
    (cursor.calls n).1 = (List.range n).map fun i => cursor.remaining[i]? := by
  induction n generalizing cursor with
  | zero => rfl
  | succ n ih =>
      rcases (step_next cursor).takes_first with ⟨hhead, htail⟩
      have h := ih cursor.next.2
      simp only [htail, List.getElem?_tail] at h
      rw [List.range_succ_eq_map, List.map_cons, List.map_map, ← List.head?_eq_getElem?, ← hhead]
      exact congrArg (List.cons cursor.next.1) h

end Cursor

open Cursor

/-- However often it is asked, a walk along a query gives out the pieces and then nothing, keeps what it has not
given out, and takes no slice in the middle of a character.  The pieces are the only decomposition of the query,
and a separator puts the pieces before it and the pieces behind it together. -/
theorem walk_cuts_uniquely (query : Text) :
    (∀ n, (start query).sliceCalls? n = some ((start query).calls n) ∧
      ((start query).calls n).1 = ((List.range n).map fun i => (ofText query)[i]?) ∧
      (((start query).calls n).2.next.1 = none ↔ (ofText query).length ≤ n) ∧
      ((start query).calls n).2.Consistent ∧
      joined ((ofText query).take n) ++ ((start query).calls n).2.unread = query) ∧
    (∀ pieces, Decomposes query pieces ↔ pieces = ofText query) ∧
    ∀ c other, isSeparator c = true →
      ofText (query ++ c :: other) = ofText query ++ .separator c :: ofText other := by
  refine ⟨?_, fun _ => decomposes_iff, fun c other hc => ofText_append_separator hc query other⟩
  intro n
  have hremaining := remaining_calls n (start query)
  rw [remaining_start] at hremaining
  refine ⟨sliceCalls?_eq n _, answers_calls n _, ?_, consistent_calls n (consistent_start query), ?_⟩
  · rw [(step_next _).takes_first.left, hremaining, List.head?_drop, List.getElem?_eq_none_iff]
  · rw [← joined_remaining, hremaining, ← joined_append, List.take_append_drop]
    exact joined_ofText query

def bareMarks : Text :=
  ",,&".toList

theorem walk_cuts_uniquely_bareMarks :
    isSeparator ':' = true ∧
      ((start bareMarks).calls 9).1 =
        [some (.segment []), some (.separator ','), some (.segment []), some (.separator ','),
          some (.segment []), some (.separator '&'), some (.segment []), none, none] ∧
      ofText (bareMarks ++ ':' :: "a;".toList) =
        ofText bareMarks ++ .separator ':' :: ofText "a;".toList := by
  rcases walk_cuts_uniquely bareMarks with ⟨hcalls, _, happend⟩
  refine ⟨by decide, ?_, happend ':' "a;".toList (by decide)⟩
  rw [(hcalls 9).right.left]
  decide

end Piece
end Polyquery
