import Polyquery.Query.Basic
import Polyquery.Query.Token

/-!
# Parsing

Negation binds to the next term, conjunction binds tighter than disjunction, and both group to the left.
A query is read from left to right by a machine with three states: it waits for an operand, for the term
of a negation, or it holds a complete query that an operator may extend.  The first token that no query
can continue with is the error.
-/

namespace Polyquery

structure ParseError where
  unexpected : Token
  position : Nat
  deriving Repr, DecidableEq

def ParseError.message (error : ParseError) : Text :=
  "unexpected ".toList ++ error.unexpected.describe ++ " (at byte ".toList ++
    Text.decimal error.position ++ ")".toList

/-- What has been read of a query: the alternatives that are closed, and the conjunction that is still
open. -/
structure ParsedPart where
  alternatives : Option Query
  conjunction : Option Query
  deriving Repr, DecidableEq

namespace ParsedPart

def empty : ParsedPart :=
  { alternatives := none, conjunction := none }

def push (part : ParsedPart) (leaf : Query) : ParsedPart :=
  match part.conjunction with
  | none => { part with conjunction := some leaf }
  | some left => { part with conjunction := some (.and left leaf) }

def query? (part : ParsedPart) : Option Query :=
  match part.alternatives, part.conjunction with
  | none, right => right
  | some left, none => some left
  | some left, some right => some (.or left right)

def close (part : ParsedPart) : ParsedPart :=
  { alternatives := part.query?, conjunction := none }

end ParsedPart

/-- A state of the parser. -/
inductive ParseState where
  /-- Waits for a term or a negation. -/
  | operand (part : ParsedPart)
  /-- Waits for the term of a negation. -/
  | negated (part : ParsedPart)
  /-- Holds a query. -/
  | complete (part : ParsedPart)
  deriving Repr, DecidableEq

namespace ParseState

def start : ParseState :=
  .operand .empty

/-- The state behind one more token, if some query goes on with it. -/
def step? : ParseState → Token → Option ParseState
  | .operand part, .filter term => some (.complete (part.push (.filter term)))
  | .operand part, .not => some (.negated part)
  | .negated part, .filter term => some (.complete (part.push (.not term)))
  | .complete part, .and => some (.operand part)
  | .complete part, .or => some (.operand part.close)
  | _, _ => none

def query? : ParseState → Option Query
  | .complete part => part.query?
  | _ => none

def finish (state : ParseState) (position : Nat) : Except ParseError Query :=
  match state.query? with
  | some query => .ok query
  | none => .error { unexpected := .endOfInput, position := position }

/-- Reads tokens up to the end marker.  A stream without one ends where its last token stands. -/
def run (state : ParseState) (last : Nat) : List PlacedToken → Except ParseError Query
  | [] => state.finish last
  | placed :: rest =>
    if placed.token = .endOfInput then state.finish placed.position
    else
      match state.step? placed.token with
      | some next => next.run placed.position rest
      | none => .error { unexpected := placed.token, position := placed.position }

end ParseState

namespace Query

/-- The query a token stream spells, or nothing if the stream holds no token before its end. -/
def ofTokens : List PlacedToken → Except ParseError (Option Query)
  | [] => .ok none
  | first :: rest =>
    if first.token = .endOfInput then .ok none
    else (ParseState.start.run 0 (first :: rest)).map some

def parse (text : Text) : Except ParseError (Option Query) :=
  ofTokens (Token.list text)

end Query
end Polyquery
