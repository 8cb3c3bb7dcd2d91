/-!
# Operators of the query language

A query joins terms with three operators.  Six characters are reserved for them; everything else is part
of a term.
-/

namespace Polyquery

/-- Negation of one term, conjunction, and disjunction. -/
inductive Operator where
  | not
  | and
  | or
  deriving Repr, DecidableEq

namespace Operator

def ofChar? : Char → Option Operator
  | '!' => some .not
  | '&' => some .and
  | '|' => some .and
  | ',' => some .or
  | ';' => some .or
  | ':' => some .or
  | _ => none

/-- Conjunction and disjunction stand between segments.  Negation belongs to the segment it opens. -/
def separates : Operator → Bool
  | .not => false
  | .and => true
  | .or => true

end Operator

def isOperatorChar (c : Char) : Bool :=
  (Operator.ofChar? c).isSome

def isSeparator (c : Char) : Bool :=
  (Operator.ofChar? c).any Operator.separates

theorem isSeparator_iff {c : Char} :
    isSeparator c = true ↔ c = '&' ∨ c = '|' ∨ c = ',' ∨ c = ';' ∨ c = ':' := by
  unfold isSeparator Operator.ofChar?
  split <;> simp_all [Operator.separates]

theorem isOperatorChar_iff {c : Char} :
    isOperatorChar c = true ↔ c = '!' ∨ isSeparator c = true := by
  unfold isOperatorChar isSeparator Operator.ofChar?
  split <;> simp_all [Operator.separates]

end Polyquery
