/-!
# Intervals of code points

A property of characters is given as a list of closed intervals of code points.  The one question
asked of such a list is whether it covers a character.
-/

namespace Polyquery
namespace Unicode

/-- The code points from `first` to `last`, both included. -/
structure Interval where
  first : Nat
  last : Nat
  deriving Repr, DecidableEq

namespace Interval

def covers (range : Interval) (code : Nat) : Bool :=
  decide (range.first ≤ code) && decide (code ≤ range.last)

theorem covers_iff {range : Interval} {code : Nat} :
    range.covers code = true ↔ range.first ≤ code ∧ code ≤ range.last := by
  simp [covers]

end Interval

def covered (ranges : List Interval) (c : Char) : Bool :=
  ranges.any fun range => range.covers c.toNat

theorem covered_iff {ranges : List Interval} {c : Char} :
    covered ranges c = true ↔ ∃ range ∈ ranges, range.first ≤ c.toNat ∧ c.toNat ≤ range.last := by
  simp [covered, Interval.covers_iff]

end Unicode
end Polyquery
