import Polyquery.Decimal.Binary64
import Polyquery.Text

/-!
# Shortest decimals

A double-precision number is written with the fewest digits that read back as the same number, and among
those with the digits nearest to it.
-/

namespace Polyquery
namespace Binary64

structure ShortDecimal where
  digits : Nat
  exponent : Int
  deriving Repr, DecidableEq

/-- The reals that round to a positive number: the two ends as numerator and denominator, and whether the
ends belong. -/
structure Interval where
  low : Nat × Nat
  high : Nat × Nat
  closed : Bool

/-- The interval of a positive number.  Just above a power of two the lower neighbour is nearer. -/
def interval (x : Binary64) : Interval :=
  let below : Binary64 :=
    if x.mantissa = Nat.pow 2 52 ∧ leastExponent < x.exponent then
      { mantissa := 4 * x.mantissa - 1, exponent := x.exponent - 2 }
    else { mantissa := 2 * x.mantissa - 1, exponent := x.exponent - 1 }
  let above : Binary64 := { mantissa := 2 * x.mantissa + 1, exponent := x.exponent - 1 }
  { low := below.ratio, high := above.ratio, closed := x.mantissa % 2 = 0 }

def Interval.contains (range : Interval) (num den : Nat) : Bool :=
  let low := range.low.1 * den
  let high := range.high.1 * den
  if range.closed then decide (low ≤ num * range.low.2) && decide (num * range.high.2 ≤ high)
  else decide (low < num * range.low.2) && decide (num * range.high.2 < high)

def ShortDecimal.ratio (d : ShortDecimal) : Nat × Nat :=
  if d.exponent < 0 then (d.digits, Nat.pow 10 (-d.exponent).toNat)
  else (d.digits * Nat.pow 10 d.exponent.toNat, 1)

/-- The exponent of ten of the first digit of `num / den`, where the value is at least `10 ^ -steps`. -/
def leadingExponent (num den : Nat) : Nat → Int
  | 0 => ((Nat.toDigits 10 (num / den)).length : Int) - 1
  | steps + 1 =>
    if den ≤ num then ((Nat.toDigits 10 (num / den)).length : Int) - 1
    else leadingExponent (num * 10) den steps - 1

/-- The better of the two neighbours of `num / den` on the grid of multiples of `10 ^ exponent`, if one
of them lies in the interval. -/
def onGrid? (range : Interval) (num den : Nat) (exponent : Int) : Option ShortDecimal :=
  let (top, bottom) :=
    if exponent < 0 then (num * Nat.pow 10 (-exponent).toNat, den)
    else (num, den * Nat.pow 10 exponent.toNat)
  let down : ShortDecimal := { digits := top / bottom, exponent := exponent }
  let up : ShortDecimal := { digits := top / bottom + 1, exponent := exponent }
  let inside (d : ShortDecimal) : Bool := range.contains d.ratio.1 d.ratio.2
  let nearest : ShortDecimal := { digits := roundQuotient top bottom, exponent := exponent }
  if inside nearest then some nearest
  else if inside down then some down
  else if inside up then some up
  else none

def search (range : Interval) (num den : Nat) (lead : Int) (places : Nat) : Nat → ShortDecimal
  | 0 => { digits := num / den, exponent := 0 }
  | tries + 1 =>
    match onGrid? range num den (lead - places + 1) with
    | some d => d
    | none => search range num den lead (places + 1) tries

def ShortDecimal.strip (d : ShortDecimal) : Nat → ShortDecimal
  | 0 => d
  | steps + 1 =>
    if d.digits ≠ 0 ∧ d.digits % 10 = 0 then
      ShortDecimal.strip { digits := d.digits / 10, exponent := d.exponent + 1 } steps
    else d

def shortest (x : Binary64) : ShortDecimal :=
  let (num, den) := x.ratio
  let lead := leadingExponent num den 400
  (search x.interval num den lead 1 17).strip 17

/-- The text of a number: positional where the point falls between the fifth place before the digits and
the sixteenth place in or after them, with an exponent elsewhere. -/
def text (x : Binary64) : Text :=
  if x.mantissa = 0 then "0.0".toList
  else
    let d := x.shortest
    let digits := Text.decimal d.digits
    let point : Int := digits.length + d.exponent
    let zeros (n : Int) : Text := List.replicate n.toNat '0'
    if 0 ≤ d.exponent ∧ point ≤ 16 then digits ++ zeros d.exponent ++ ".0".toList
    else if 0 < point ∧ point ≤ 16 then
      digits.take point.toNat ++ ".".toList ++ digits.drop point.toNat
    else if -5 < point ∧ point ≤ 0 then "0.".toList ++ zeros (-point) ++ digits
    else
      let power : Text := (if point - 1 < 0 then "-".toList else []) ++
        Text.decimal (point - 1).natAbs
      match digits with
      | [digit] => digit :: 'e' :: power
      | first :: rest => first :: '.' :: rest ++ 'e' :: power
      | [] => []

end Binary64
end Polyquery
