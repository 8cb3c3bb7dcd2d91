import Std.Data.TreeMap
import Polyquery.Language
import Polyquery.Query.Segment
import Polyquery.Unicode.UpperCase

/-!
# Warnings

Some terms do not mean quite the same in every language.  A warning is kept for a term in one language,
whatever its case, and may be limited to one way of reading the term.  It has one message for a query that
is translated from the term and one for a query that is translated to it.
-/

namespace Polyquery

inductive Qualifier where
  | any
  | only (type : SearchType)
  deriving Repr, DecidableEq

def Qualifier.admits : Qualifier → SearchType → Bool
  | .any, _ => true
  | .only type, other => decide (type = other)

structure WarningEntry where
  qualifier : Qualifier
  sourceMessage : Text
  targetMessage : Text
  deriving Repr, DecidableEq

/-- A term in upper case, and its language. -/
structure WarningKey where
  term : Text
  language : Language
  deriving Repr, DecidableEq

namespace WarningKey

instance : Ord WarningKey :=
  ⟨compareLex (compareOn term) (compareOn language)⟩

instance : Std.TransOrd WarningKey :=
  inferInstanceAs (Std.TransCmp (compareLex (compareOn term) (compareOn language)))

instance : Std.LawfulEqOrd WarningKey where
  eq_of_compare {a b} h := by
    have hlex : compareLex (compareOn term) (compareOn language) a b = .eq := h
    rw [compareLex_eq_eq] at hlex
    cases a
    cases b
    obtain ⟨hterm, hlanguage⟩ := hlex
    exact congr (congrArg WarningKey.mk (Std.LawfulEqOrd.compare_eq_iff_eq.1 hterm))
      (Std.LawfulEqOrd.compare_eq_iff_eq.1 hlanguage)

def ofTerm (term : Text) (language : Language) : WarningKey :=
  { term := Text.upper term, language := language }

end WarningKey

structure WarningTable where
  entries : Std.TreeMap WarningKey WarningEntry

namespace WarningTable

def empty : WarningTable :=
  { entries := ∅ }

def insert (table : WarningTable) (term : Text) (language : Language) (entry : WarningEntry) :
    WarningTable :=
  { entries := table.entries.insert (.ofTerm term language) entry }

/-- The warning of a term that is read as `type`. -/
def lookup? (table : WarningTable) (term : Text) (language : Language) (type : SearchType) :
    Option WarningEntry :=
  table.entries[WarningKey.ofTerm term language]?.filter fun entry => entry.qualifier.admits type

def size (table : WarningTable) : Nat :=
  table.entries.size

def toList (table : WarningTable) : List (Text × Language × WarningEntry) :=
  table.entries.toList.map fun entry => (entry.1.term, entry.1.language, entry.2)

end WarningTable
end Polyquery
