import Polyquery.Query.Operator
import Polyquery.Text.Trim
import Polyquery.Unicode.LowerCase

/-!
# Tokens

The parser reads a query as tokens: terms in lower case, operators, and one marker for the end.  White
space between tokens is skipped.  Every token knows the byte of the query at which it begins, counted in
the text as given, since changing case can change a term's length.
-/

namespace Polyquery

inductive Token where
  | filter (term : Text)
  | not
  | and
  | or
  | endOfInput
  deriving Repr, DecidableEq

namespace Token

def ofOperator : Operator → Token
  | .not => .not
  | .and => .and
  | .or => .or

def describe : Token → Text
  | .filter term => "term ".toList ++ Text.quoted term
  | .not => "`!`".toList
  | .and => "`&`".toList
  | .or => "`,`".toList
  | .endOfInput => "end of input".toList

end Token

structure PlacedToken where
  token : Token
  position : Nat
  deriving Repr, DecidableEq

/-- One token read from the front of a text: the token, the byte of its first character, the byte behind
its last, and the text behind it. -/
structure Lexeme where
  token : Token
  start : Nat
  stop : Nat
  rest : Text
  deriving Repr, DecidableEq

namespace Lexeme

def isTermChar (c : Char) : Bool :=
  !isOperatorChar c

def read (position : Nat) (text : Text) : Lexeme :=
  let start := position + Text.byteSize (text.takeWhile Unicode.isBlank)
  match text.dropWhile Unicode.isBlank with
  | [] => { token := .endOfInput, start := start, stop := start, rest := [] }
  | c :: rest =>
    match Operator.ofChar? c with
    | some operator =>
      { token := .ofOperator operator, start := start, stop := start + c.utf8Size, rest := rest }
    | none =>
      let term := c :: rest.takeWhile isTermChar
      { token := .filter (Text.lower (Text.trimRight term))
        start := start
        stop := start + Text.byteSize term
        rest := rest.dropWhile isTermChar }

def placed (lexeme : Lexeme) : PlacedToken :=
  { token := lexeme.token, position := lexeme.start }

theorem length_dropWhile_le (p : Char → Bool) (text : Text) :
    (text.dropWhile p).length ≤ text.length :=
  (List.dropWhile_sublist p).length_le

theorem length_rest_lt {position : Nat} {text : Text}
    (h : (read position text).token ≠ .endOfInput) :
    (read position text).rest.length < text.length := by
  have hle := length_dropWhile_le Unicode.isBlank text
  unfold read at h ⊢
  split at h
  · exact absurd rfl h
  · rename_i c rest heq
    rw [heq] at hle
    split
    · exact hle
    · exact Nat.lt_of_le_of_lt (length_dropWhile_le _ rest) hle

end Lexeme

namespace Token

def listFrom (position : Nat) (text : Text) : List PlacedToken :=
  let lexeme := Lexeme.read position text
  if h : lexeme.token = .endOfInput then [lexeme.placed]
  else
    have _shorter : lexeme.rest.length < text.length := Lexeme.length_rest_lt h
    lexeme.placed :: listFrom lexeme.stop lexeme.rest
termination_by text.length

/-- The tokens of a query.  The last one, and no other, is the end marker. -/
def list (query : Text) : List PlacedToken :=
  listFrom 0 query

/-- A place in the token stream of a query.  It can be copied and set back to the start. -/
structure Cursor where
  input : Text
  position : Nat
  rest : Text
  finished : Bool
  deriving Repr, DecidableEq

namespace Cursor

def start (query : Text) : Cursor :=
  { input := query, position := 0, rest := query, finished := false }

def restart (cursor : Cursor) : Cursor :=
  start cursor.input

/-- The next token and the place behind it.  Behind the end marker there is nothing. -/
def next (cursor : Cursor) : Option PlacedToken × Cursor :=
  if cursor.finished then (none, cursor)
  else
    let lexeme := Lexeme.read cursor.position cursor.rest
    (some lexeme.placed,
      { cursor with
        position := lexeme.stop
        rest := lexeme.rest
        finished := decide (lexeme.token = .endOfInput) })

def remaining (cursor : Cursor) : List PlacedToken :=
  if cursor.finished then [] else listFrom cursor.position cursor.rest

def exhausted (cursor : Cursor) : Cursor :=
  { cursor with position := cursor.input.byteSize, rest := [], finished := true }

end Cursor
end Token
end Polyquery
