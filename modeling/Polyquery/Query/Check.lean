import Polyquery.Query.Basic
import Polyquery.Query.Piece
import Polyquery.Unicode.Blank
import Polyquery.Unicode.Letter

/-!
# The query check

Before a query is parsed it is checked for three mistakes that would otherwise read as something else:
white space, a number that runs straight into a word, and two numbers joined by a conjunction.  They are
looked for in this order and the first place is reported.

A number group is a run of digits that may go on with a dash and more digits.  Only ASCII digits count.
-/

namespace Polyquery

inductive CheckFault where
  | embeddedWhitespace
  | missingOperator (number : Text)
  | andBetweenNumbers (left right : Text)
  deriving Repr, DecidableEq

structure CheckError where
  fault : CheckFault
  position : Nat
  deriving Repr, DecidableEq

def CheckFault.message : CheckFault → Text
  | .embeddedWhitespace => "search strings cannot contain whitespace".toList
  | .missingOperator number =>
    "missing operator between ".toList ++ Text.quoted number ++ " and the term after it".toList
  | .andBetweenNumbers left right =>
    Text.quoted left ++ " and ".toList ++ Text.quoted right ++
      " are both Pokédex numbers, join them with `,` instead of `&`".toList

def CheckError.message (error : CheckError) : Text :=
  error.fault.message ++ " (at byte ".toList ++ Text.decimal error.position ++ ")".toList

namespace Check

def firstBlank? (offset : Nat) : Text → Option Nat
  | [] => none
  | c :: rest =>
    if Unicode.isBlank c then some offset else firstBlank? (offset + c.utf8Size) rest

def numberGroup? (text : Text) : Option (Text × Text) :=
  let digits := text.takeWhile Char.isDigit
  if digits.isEmpty then none
  else
    match text.dropWhile Char.isDigit with
    | '-' :: rest => some (digits ++ '-' :: rest.takeWhile Char.isDigit, rest.dropWhile Char.isDigit)
    | rest => some (digits, rest)

def isNumberGroup (text : Text) : Bool :=
  match numberGroup? text with
  | some (_, rest) => rest.isEmpty
  | none => false

def gluedNumber? (text : Text) : Option Text :=
  match numberGroup? text with
  | some (number, c :: _) => if Unicode.isLetter c then some number else none
  | _ => none

/-- The first number group that opens a segment or a negation and runs into a letter, with the byte of
that letter.  The text begins at byte `offset`, and `opens` says whether a group may begin there. -/
def firstGlued? (opens : Bool) (offset : Nat) : Text → Option (Text × Nat)
  | [] => none
  | c :: rest =>
    match if opens then gluedNumber? (c :: rest) else none with
    | some number => some (number, offset + number.byteSize)
    | none => firstGlued? (isOperatorChar c) (offset + c.utf8Size) rest

/-- The first conjunction with a number group on each side, with the byte of its operator.  The pieces
begin at byte `offset`. -/
def firstNumberPair? (offset : Nat) : List Piece → Option (Text × Text × Nat)
  | .segment left :: .separator c :: .segment right :: rest =>
    if Operator.ofChar? c = some .and && isNumberGroup left && isNumberGroup right then
      some (left, right, offset + left.byteSize)
    else firstNumberPair? (offset + left.byteSize + c.utf8Size) (.segment right :: rest)
  | _ => none

end Check

open Check in
def Query.check (text : Text) : Except CheckError Unit :=
  match firstBlank? 0 text with
  | some position => .error { fault := .embeddedWhitespace, position := position }
  | none =>
    match firstGlued? true 0 text with
    | some (number, position) =>
      .error { fault := .missingOperator number, position := position }
    | none =>
      match firstNumberPair? 0 (Piece.ofText text) with
      | some (left, right, position) =>
        .error { fault := .andBetweenNumbers left right, position := position }
      | none => .ok ()

end Polyquery
