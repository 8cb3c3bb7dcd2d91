import Std.Data.TreeMap
import Polyquery.Catalog.Basic
import Polyquery.Query.Segment

/-!
# Pins

A column may spell two concepts alike.  A pin ties a concept in one language to one way of reading: the
concept is then found only by terms that are read that way.  A concept without a pin is found however its
term is read.
-/

namespace Polyquery

structure PinKey where
  concept : Concept
  language : Language
  deriving Repr, DecidableEq

namespace PinKey

instance : Ord PinKey :=
  ⟨compareLex (compareOn concept) (compareOn language)⟩

instance : Std.TransOrd PinKey :=
  inferInstanceAs (Std.TransCmp (compareLex (compareOn concept) (compareOn language)))

instance : Std.LawfulEqOrd PinKey where
  eq_of_compare {a b} h := by
    have hlex : compareLex (compareOn concept) (compareOn language) a b = .eq := h
    rw [compareLex_eq_eq] at hlex
    cases a
    cases b
    obtain ⟨hconcept, hlanguage⟩ := hlex
    exact congr (congrArg PinKey.mk (Std.LawfulEqOrd.compare_eq_iff_eq.1 hconcept))
      (Std.LawfulEqOrd.compare_eq_iff_eq.1 hlanguage)

end PinKey

structure PinTable where
  entries : Std.TreeMap PinKey SearchType

namespace PinTable

def empty : PinTable :=
  { entries := ∅ }

def insert (table : PinTable) (concept : Concept) (language : Language) (type : SearchType) :
    PinTable :=
  { entries := table.entries.insert { concept := concept, language := language } type }

def ofList (pins : List (Concept × Language × SearchType)) : PinTable :=
  pins.foldl (fun table pin => table.insert pin.1 pin.2.1 pin.2.2) empty

def get? (table : PinTable) (concept : Concept) (language : Language) : Option SearchType :=
  table.entries[({ concept := concept, language := language } : PinKey)]?

/-- The concept is found in the language by a term that is read as `type`. -/
def admits (table : PinTable) (concept : Concept) (language : Language) (type : SearchType) : Bool :=
  (table.get? concept language).all fun pinned => decide (pinned = type)

def size (table : PinTable) : Nat :=
  table.entries.size

def toList (table : PinTable) : List (Concept × Language × SearchType) :=
  table.entries.toList.map fun entry => (entry.1.concept, entry.1.language, entry.2)

theorem get?_insert (table : PinTable) (concept other : Concept) (language otherLanguage : Language)
    (type : SearchType) :
    (table.insert concept language type).get? other otherLanguage =
      if concept = other ∧ language = otherLanguage then some type
      else table.get? other otherLanguage := by
  simp only [get?, insert, Std.TreeMap.getElem?_insert, Std.LawfulEqOrd.compare_eq_iff_eq,
    PinKey.mk.injEq]

end PinTable
end Polyquery
