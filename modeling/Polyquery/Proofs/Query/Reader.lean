import Polyquery.Proofs.Query.Tokens
import Polyquery.Proofs.Text.Slices

/-!
# Reading tokens by bytes

A reader keeps the whole query and the byte at which it stands.  It takes a new slice of the query for every
character it looks at and one for every term, so it could fail at a byte at which no character begins.  It
never does: where it stands, it reads what the cursor reads that keeps the rest of the text.
-/

namespace Polyquery

open Text Unicode

namespace Lexeme

theorem start_read {text : Text} (h : StartsOutside isBlank text) (position : Nat) :
    (read position text).start = position := by
  rw [read, takeWhile_eq_nil_of_startsOutside h, byteSize_nil, Nat.add_zero]
  split
  · rfl
  · split <;> rfl

theorem exists_append_rest_read (position : Nat) (text : Text) :
    ∃ part, text = part ++ (read position text).rest ∧
      (read position text).stop = position + byteSize part := by
  have hsplit : text.takeWhile isBlank ++ text.dropWhile isBlank = text :=
    List.takeWhile_append_dropWhile
  rw [read]
  split
  · rename_i hdrop
    rw [hdrop] at hsplit
    exact ⟨text.takeWhile isBlank, hsplit.symm, rfl⟩
  · rename_i c rest hdrop
    rw [hdrop] at hsplit
    split
    · refine ⟨text.takeWhile isBlank ++ [c], ?_, ?_⟩
      · rw [List.append_assoc]
        exact hsplit.symm
      · rw [byteSize_append, ← Nat.add_assoc]
        rfl
    · refine ⟨text.takeWhile isBlank ++ c :: rest.takeWhile isTermChar, ?_, ?_⟩
      · rw [List.append_assoc, List.cons_append, List.takeWhile_append_dropWhile]
        exact hsplit.symm
      · rw [byteSize_append, ← Nat.add_assoc]

end Lexeme

namespace Token

/-- A place in the token stream of a query, known by its byte only. -/
structure Reader where
  input : Text
  position : Nat
  finished : Bool
  deriving Repr, DecidableEq

namespace Reader

def start (query : Text) : Reader :=
  { input := query, position := 0, finished := false }

def restart (reader : Reader) : Reader :=
  { reader with position := 0, finished := false }

def rest? (reader : Reader) : Option Text :=
  tailAt? reader.position reader.input

def advance (reader : Reader) (size : Nat) : Reader :=
  { reader with position := reader.position + size }

theorem byteSize_sub_advance_lt {reader : Reader} {c : Char} {text : Text}
    (h : reader.rest? = some (c :: text)) :
    byteSize (reader.advance c.utf8Size).input - (reader.advance c.utf8Size).position <
      byteSize reader.input - reader.position := by
  have hsize := byteSize_of_tailAt? h
  have hpos := c.utf8Size_pos
  rw [byteSize_cons] at hsize
  simp only [advance]
  omega

def skip? (p : Char → Bool) (reader : Reader) : Option Reader :=
  match h : reader.rest? with
  | none => none
  | some [] => some reader
  | some (c :: _) =>
    if p c then
      have _closer := byteSize_sub_advance_lt h
      skip? p (reader.advance c.utf8Size)
    else some reader
termination_by byteSize reader.input - reader.position

def term? (reader : Reader) : Option (Token × Reader) := do
  let stop ← reader.skip? Lexeme.isTermChar
  let term ← slice? reader.position stop.position reader.input
  return (.filter (lower (trimRight term)), stop)

def token? (reader : Reader) : Option (Token × Reader) := do
  match ← reader.rest? with
  | [] => return (.endOfInput, { reader with finished := true })
  | c :: _ =>
    match Operator.ofChar? c with
    | some operator => return (.ofOperator operator, reader.advance c.utf8Size)
    | none => reader.term?

/-- The next token and the reader behind it.  There is no result if a slice could not be taken. -/
def next? (reader : Reader) : Option (Option PlacedToken × Reader) :=
  if reader.finished then some (none, reader)
  else do
    let first ← reader.skip? isBlank
    let (token, stop) ← first.token?
    return (some { token := token, position := first.position }, stop)

/-!
# What a reader skips
-/

variable {reader : Reader} {text : Text} {p : Char → Bool}

theorem skip?_stop (h : reader.rest? = some text) (hstart : StartsOutside p text) :
    reader.skip? p = some reader := by
  rw [skip?]
  split
  · rename_i hnone
    rw [h] at hnone
    cases hnone
  · rfl
  · rename_i c rest hcons
    rw [h] at hcons
    cases hcons
    rw [startsOutside_cons.mp hstart]
    rfl

theorem skip?_step {c : Char} (h : reader.rest? = some (c :: text)) (hc : p c = true) :
    reader.skip? p = (reader.advance c.utf8Size).skip? p := by
  rw [skip?]
  split
  · rename_i hnone
    rw [h] at hnone
    cases hnone
  · rename_i hnil
    rw [h] at hnil
    cases hnil
  · rename_i d rest hcons
    rw [h] at hcons
    cases hcons
    rw [if_pos hc]

theorem advance_add (reader : Reader) (size more : Nat) :
    reader.advance (size + more) = (reader.advance size).advance more := by
  simp only [advance, Nat.add_assoc]

theorem rest?_advance {part rest : Text} (h : reader.rest? = some (part ++ rest)) :
    (reader.advance (byteSize part)).rest? = some rest :=
  tailAt?_add h

theorem skip?_eq (h : reader.rest? = some text) :
    reader.skip? p = some (reader.advance (byteSize (text.takeWhile p))) := by
  induction text generalizing reader with
  | nil => exact skip?_stop h (avoids_nil.startsOutside)
  | cons c rest ih =>
      cases hc : p c with
      | false =>
          rw [skip?_stop h (startsOutside_cons.mpr hc), List.takeWhile_cons_of_neg (by simp [hc])]
          rfl
      | true =>
          have hsplit : reader.rest? = some ([c] ++ rest) := h
          have hnext : (reader.advance c.utf8Size).rest? = some rest := rest?_advance hsplit
          rw [skip?_step h hc, ih hnext, List.takeWhile_cons_of_pos hc, byteSize_cons, advance_add]

theorem rest?_skipped (h : reader.rest? = some text) (p : Char → Bool) :
    (reader.advance (byteSize (text.takeWhile p))).rest? = some (text.dropWhile p) := by
  apply rest?_advance
  rw [List.takeWhile_append_dropWhile]
  exact h

def behind (reader : Reader) (lexeme : Lexeme) : Reader :=
  { reader with
    position := lexeme.stop
    finished := decide (lexeme.token = .endOfInput) }

theorem term?_eq (h : reader.rest? = some text) :
    reader.term? =
      some (.filter (lower (trimRight (text.takeWhile Lexeme.isTermChar))),
        reader.advance (byteSize (text.takeWhile Lexeme.isTermChar))) := by
  have hsplit : tailAt? reader.position reader.input =
      some (text.takeWhile Lexeme.isTermChar ++ text.dropWhile Lexeme.isTermChar) := by
    rw [List.takeWhile_append_dropWhile]
    exact h
  rw [term?, skip?_eq h, Option.bind_eq_bind, Option.bind_some, advance, slice?_of_tailAt? hsplit]
  rfl

theorem token?_eq (hgoing : reader.finished = false) (h : reader.rest? = some text)
    (hstart : StartsOutside isBlank text) :
    reader.token? =
      some ((Lexeme.read reader.position text).token,
        reader.behind (Lexeme.read reader.position text)) := by
  rw [token?, h, Option.bind_eq_bind, Option.bind_some]
  cases text with
  | nil => rfl
  | cons c rest =>
      have hblank := startsOutside_cons.mp hstart
      cases hc : Operator.ofChar? c with
      | some operator =>
          have hne := ofOperator_ne_endOfInput operator
          simp [Lexeme.read_operator hc, behind, advance, hne, hgoing, hc]
      | none =>
          have hterm : Lexeme.isTermChar c = true := by simp [Lexeme.isTermChar, isOperatorChar, hc]
          simp [Lexeme.read, behind, advance, hgoing, hc, hblank, term?_eq h, hterm]

theorem next?_eq (hgoing : reader.finished = false) (h : reader.rest? = some text) :
    reader.next? =
      some (some (Lexeme.read reader.position text).placed,
        reader.behind (Lexeme.read reader.position text)) := by
  have hread : Lexeme.read reader.position text =
      Lexeme.read (reader.position + byteSize (text.takeWhile isBlank)) (text.dropWhile isBlank) := by
    have hlead : ∀ c ∈ text.takeWhile isBlank, isBlank c = true := by
      intro c hc
      exact List.mem_takeWhile_imp hc
    rw [← Lexeme.read_blank_append hlead, List.takeWhile_append_dropWhile]
  have hstart := startsOutside_dropWhile isBlank text
  have hfirst : (reader.advance (byteSize (text.takeWhile isBlank))).finished = false := hgoing
  have htoken := token?_eq hfirst (rest?_skipped h isBlank) hstart
  rw [next?, hgoing, if_neg Bool.false_ne_true, skip?_eq h, Option.bind_eq_bind, Option.bind_some,
    htoken, hread, Lexeme.placed, Lexeme.start_read hstart]
  rfl

theorem rest?_behind (h : reader.rest? = some text) :
    (reader.behind (Lexeme.read reader.position text)).rest? =
      some (Lexeme.read reader.position text).rest := by
  rcases Lexeme.exists_append_rest_read reader.position text with ⟨part, htext, hstop⟩
  rw [rest?, behind, hstop]
  apply tailAt?_add
  rw [← htext]
  exact h

end Reader

/-!
# Readers and cursors
-/

namespace Cursor

def reader (cursor : Cursor) : Reader :=
  { input := cursor.input, position := cursor.position, finished := cursor.finished }

def Keeps (cursor : Cursor) : Prop :=
  cursor.reader.rest? = some cursor.rest

theorem keeps_start (query : Text) : (start query).Keeps :=
  tailAt?_append [] query

theorem keeps_restart (cursor : Cursor) : cursor.restart.Keeps :=
  keeps_start cursor.input

/-- A reader reads what the cursor at the same place reads. -/
theorem next?_reader {cursor : Cursor} (h : cursor.Keeps) :
    cursor.reader.next? = some (cursor.next.1, cursor.next.2.reader) := by
  cases hfinished : cursor.finished with
  | true => simp [Reader.next?, next, reader, hfinished]
  | false =>
      have hgoing : cursor.reader.finished = false := hfinished
      rw [Reader.next?_eq hgoing h, next, hfinished]
      rfl

theorem keeps_next {cursor : Cursor} (h : cursor.Keeps) : cursor.next.2.Keeps := by
  cases hfinished : cursor.finished with
  | true =>
      rw [next, hfinished]
      exact h
  | false =>
      rw [next, hfinished]
      exact Reader.rest?_behind h

end Cursor
end Token
end Polyquery
