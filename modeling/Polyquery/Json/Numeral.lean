import Polyquery.Decimal.Shortest
import Polyquery.Json.Fault

/-!
# Numerals

A JSON numeral is kept as it is spelled until a reader asks for its value.  Integers of 64 bits are exact.
Every other numeral is a double-precision number, found from its first digits and its power of ten.
-/

namespace Polyquery
namespace Json

/-- A numeral: its sign, its digits before and behind the point, and its exponent with a sign. -/
structure Numeral where
  negative : Bool
  whole : Text
  fraction : Option Text
  exponent : Option (Bool × Text)
  deriving Repr, DecidableEq

inductive Quantity where
  | natural (n : Nat)
  | negative (size : Nat)
  | real (minus : Bool) (size : Binary64)
  deriving Repr, DecidableEq

namespace Quantity

def describe : Quantity → Text
  | .natural n => "integer ".toList ++ Text.quoted (Text.decimal n)
  | .negative size => "integer ".toList ++ Text.quoted ('-' :: Text.decimal size)
  | .real minus size =>
    "floating point ".toList ++ Text.quoted ((if minus then "-".toList else []) ++ size.text)

end Quantity

namespace Numeral

def digitValue (c : Char) : Nat :=
  c.toNat - '0'.toNat

def value (digits : Text) : Nat :=
  digits.foldl (fun n c => n * 10 + digitValue c) 0

/-- Appends digits to a significand while it fits 64 bits; gives it with the digits left over. -/
def fill (significand : Nat) : Text → Nat × Text
  | [] => (significand, [])
  | c :: rest =>
    let next := significand * 10 + digitValue c
    if next < Nat.pow 2 64 then fill next rest else (significand, c :: rest)

def powerOfTen (n : Nat) : Binary64 :=
  (Binary64.ofRatio? (Nat.pow 10 n) 1).getD .zero

/-- A number divided by `10 ^ 308` as often as given, then by `10 ^ last`. -/
def shrink (x : Binary64) (last : Nat) : Nat → Binary64
  | 0 => (x.div? (powerOfTen last)).getD .zero
  | times + 1 =>
    if x.mantissa = 0 then x else shrink ((x.div? (powerOfTen 308)).getD .zero) last times

/-- The number `significand * 10 ^ exponent`, unless it is too large. -/
def scale? (significand : Nat) (exponent : Int) : Option Binary64 := do
  let x ← Binary64.ofRatio? significand 1
  if 0 ≤ exponent then
    if exponent ≤ 308 then x.mul? (powerOfTen exponent.toNat)
    else if x.mantissa = 0 then some x
    else none
  else
    let size := (-exponent).toNat
    some (shrink x (if size % 308 = 0 then 308 else size % 308) ((size - 1) / 308))

def exponentBound : Nat := Nat.pow 2 31 - 1

/-- The value of a numeral as a double-precision number. -/
def real (numeral : Numeral) : Except Fault Quantity :=
  let (leading, dropped) := fill 0 numeral.whole
  let fraction := numeral.fraction.getD []
  let (significand, ignored) := fill leading fraction
  let exponent : Int := dropped.length - (fraction.length - ignored.length : Nat)
  let result (x : Option Binary64) : Except Fault Quantity :=
    match x with
    | some size => .ok (.real numeral.negative size)
    | none => .error .numberOutOfRange
  match numeral.exponent with
  | none => result (scale? significand exponent)
  | some (below, digits) =>
    let size := value digits
    if exponentBound < size then
      if significand ≠ 0 ∧ below = false then .error .numberOutOfRange
      else result (some .zero)
    else result (scale? significand (if below then exponent - size else exponent + size))

def quantity (numeral : Numeral) : Except Fault Quantity :=
  let n := value numeral.whole
  if numeral.fraction.isSome || numeral.exponent.isSome then numeral.real
  else if numeral.negative then
    if 0 < n ∧ n ≤ Nat.pow 2 63 then .ok (.negative n) else numeral.real
  else if n < Nat.pow 2 64 then .ok (.natural n)
  else numeral.real

end Numeral
end Json
end Polyquery
