import Polyquery.Query.Operator
import Polyquery.Text

/-!
# Pieces

A query is cut at its separators into an alternating list of segments and separators that begins and
ends with a segment.  Segments may be empty, so the pieces joined together are the query again.
-/

namespace Polyquery

inductive Piece where
  | segment (text : Text)
  | separator (c : Char)
  deriving Repr, DecidableEq

namespace Piece

def text : Piece → Text
  | .segment text => text
  | .separator c => [c]

def segment? : Piece → Option Text
  | .segment text => some text
  | .separator _ => none

/-- The pieces of a query whose current segment has begun with `openText`, given backwards. -/
def cut (openText : Text) : Text → List Piece
  | [] => [.segment openText.reverse]
  | c :: rest =>
    if isSeparator c then .segment openText.reverse :: .separator c :: cut [] rest
    else cut (c :: openText) rest

def ofText (query : Text) : List Piece :=
  cut [] query

def segments (query : Text) : List Text :=
  (ofText query).filterMap segment?

/-- A place between two pieces of a query: what has not been read, the separator that comes next if one
does, and whether the last segment has been given out. -/
structure Cursor where
  rest : Text
  pending : Option Char
  done : Bool
  deriving Repr, DecidableEq

namespace Cursor

def start (query : Text) : Cursor :=
  { rest := query, pending := none, done := false }

def next (cursor : Cursor) : Option Piece × Cursor :=
  match cursor.pending with
  | some c => (some (.separator c), { cursor with pending := none })
  | none =>
    if cursor.done then (none, cursor)
    else
      let segment := cursor.rest.takeWhile fun c => !isSeparator c
      match cursor.rest.dropWhile fun c => !isSeparator c with
      | c :: rest => (some (.segment segment), { rest := rest, pending := some c, done := false })
      | [] => (some (.segment segment), { cursor with done := true })

end Cursor
end Piece
end Polyquery
