/-!
# Double-precision numbers

A finite non-negative number of double precision is an integer of at most 53 bits times a power of two.
Ratios of integers are rounded to the nearest such number, a tie going to the even integer.
-/

namespace Polyquery

structure Binary64 where
  mantissa : Nat
  exponent : Int
  deriving Repr, DecidableEq

namespace Binary64

def leastExponent : Int := -1074

def greatestExponent : Int := 971

def zero : Binary64 :=
  { mantissa := 0, exponent := leastExponent }

def scaled (num den : Nat) (exponent : Int) : Nat × Nat :=
  if exponent < 0 then (num * Nat.pow 2 (-exponent).toNat, den)
  else (num, den * Nat.pow 2 exponent.toNat)

def ratio (x : Binary64) : Nat × Nat :=
  if x.exponent < 0 then (x.mantissa, Nat.pow 2 (-x.exponent).toNat)
  else (x.mantissa * Nat.pow 2 x.exponent.toNat, 1)

/-- A quotient rounded to the nearest integer, a tie going to the even one. -/
def roundQuotient (num den : Nat) : Nat :=
  let quotient := num / den
  let rest := num % den
  if 2 * rest < den then quotient
  else if den < 2 * rest then quotient + 1
  else if quotient % 2 = 0 then quotient
  else quotient + 1

/-- The exponent at which `num / den` has 53 bits before the point, or the least one. -/
def exponentOf (num den : Nat) : Int :=
  let guess : Int := (Nat.log2 num : Int) - (Nat.log2 den : Int) - 52
  let (top, bottom) := scaled num den guess
  max leastExponent (if top < bottom * Nat.pow 2 52 then guess - 1 else guess)

/-- The number nearest to `num / den`, unless that is too large. -/
def ofRatio? (num den : Nat) : Option Binary64 :=
  if num = 0 then some zero
  else
    let exponent := exponentOf num den
    let (top, bottom) := scaled num den exponent
    let rounded := roundQuotient top bottom
    let x : Binary64 :=
      if rounded = Nat.pow 2 53 then { mantissa := Nat.pow 2 52, exponent := exponent + 1 }
      else { mantissa := rounded, exponent := exponent }
    if greatestExponent < x.exponent then none else some x

def mul? (x y : Binary64) : Option Binary64 :=
  ofRatio? (x.ratio.1 * y.ratio.1) (x.ratio.2 * y.ratio.2)

def div? (x y : Binary64) : Option Binary64 :=
  ofRatio? (x.ratio.1 * y.ratio.2) (x.ratio.2 * y.ratio.1)

end Binary64
end Polyquery
