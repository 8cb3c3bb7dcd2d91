import Polyquery.Text

/-!
# What a JSON reader is given

A text that comes from a file may hold bytes that encode no character, and may break off because it
cannot be read on.  Both reach the reader as symbols beside the characters, so that it can say which of
several faults comes first.
-/

namespace Polyquery
namespace Json

inductive Symbol where
  | char (c : Char)
  | stray
  /-- The text cannot be read any further. -/
  | cut (reason : Text)
  deriving Repr, DecidableEq

namespace Symbol

def ofText (text : Text) : List Symbol :=
  text.map .char

def byteSize : Symbol → Nat
  | .char c => c.utf8Size
  | .stray => 1
  | .cut _ => 0

def digit? : Symbol → Option Char
  | .char c => if c.isDigit then some c else none
  | _ => none

def isDigit (symbol : Symbol) : Bool :=
  symbol.digit?.isSome

def hexValue? : Symbol → Option Nat
  | .char c =>
    if c.isDigit then some (c.toNat - '0'.toNat)
    else if 'a' ≤ c ∧ c ≤ 'f' then some (c.toNat - 'a'.toNat + 10)
    else if 'A' ≤ c ∧ c ≤ 'F' then some (c.toNat - 'A'.toNat + 10)
    else none
  | _ => none

end Symbol
end Json
end Polyquery
