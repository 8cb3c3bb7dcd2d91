import Polyquery.Conflict.Rules
import Polyquery.Distinct
import Polyquery.Query.Basic
import Polyquery.TermSet

/-!
# Terms and conflicts of a query

The extraction of a query lists the terms it asks for, the terms it excludes, and the combinations that
can never match.  Exclusive pairs are looked for among all terms asked for, whatever joins them.
Categories are looked for below each conjunction, excluded terms included.
-/

namespace Polyquery

inductive ConflictKind where
  | globallyExclusive
  | sameCategory (category : Text)
  | refused
  /-- The text passed the check but spells no query. -/
  | unparsed
  deriving Repr, DecidableEq

/-- A finding: its kind, the clashing terms in increasing order, and a sentence for the reader. -/
structure Conflict where
  kind : ConflictKind
  terms : List Text
  detail : Text
  deriving Repr, DecidableEq

structure Extraction where
  included : TermSet
  excluded : TermSet
  conflicts : List Conflict
  deriving DecidableEq

namespace Extraction

def empty : Extraction :=
  { included := ∅, excluded := ∅, conflicts := [] }

def failed (kind : ConflictKind) (detail : Text) : Extraction :=
  { empty with conflicts := [{ kind := kind, terms := [], detail := detail }] }

def isClean (extraction : Extraction) : Bool :=
  extraction.conflicts.isEmpty

end Extraction

namespace Conflict

def sortedPair (left right : Text) : List Text :=
  if right < left then [right, left] else [left, right]

/-- The conflict of an exclusive pair.  The sentence names the states in the order of the rule. -/
def exclusive (left right : Text) : Conflict :=
  { kind := .globallyExclusive
    terms := sortedPair left right
    detail := Text.quoted left ++ " and ".toList ++ Text.quoted right ++
      " can never both be true".toList }

def members (category : Category) (left right : Text) : Conflict :=
  { kind := .sameCategory category.name
    terms := sortedPair left right
    detail := Text.quoted left ++ " and ".toList ++ Text.quoted right ++ " are both ".toList ++
      category.name ++ " and cannot be combined with AND".toList }

/-- All pairs of a list in which the first entry stands before the second. -/
def pairs : List Text → List (Text × Text)
  | [] => []
  | first :: rest => (rest.map fun second => (first, second)) ++ pairs rest

def amongPresent (rules : ConflictRules) (present : TermSet) : List Conflict :=
  rules.exclusive.filterMap fun pair =>
    let left := Text.lower pair.left
    let right := Text.lower pair.right
    if left ≠ right ∧ left ∈ present ∧ right ∈ present then some (exclusive left right) else none

/-- The category clashes among the terms below one conjunction. -/
def underConjunction (rules : ConflictRules) (present : TermSet) : List Conflict :=
  rules.categories.flatMap fun category =>
    (pairs (present.terms.filter category.contains)).map fun pair =>
      members category pair.1 pair.2

end Conflict

namespace Query

def included (query : Query) : TermSet :=
  .ofList ((query.leaves.filter fun leaf => !leaf.negated).map Leaf.term)

def excluded (query : Query) : TermSet :=
  .ofList ((query.leaves.filter Leaf.negated).map Leaf.term)

def conflicts (query : Query) (rules : ConflictRules) : List Conflict :=
  distinctBy id
    (Conflict.amongPresent rules query.included ++
      query.conjunctions.flatMap fun leaves =>
        Conflict.underConjunction rules (.ofList (leaves.map Leaf.term)))

def extract (query : Query) (rules : ConflictRules) : Extraction :=
  { included := query.included
    excluded := query.excluded
    conflicts := query.conflicts rules }

end Query
end Polyquery
