import Polyquery.Language.Map
import Polyquery.Text.Fold
import Polyquery.Text.Trim

/-!
# Catalogs

A catalog has one column of terms per language.  All columns list the same concepts in the same order, so
a concept is nothing but a place in the columns, and its terms in two languages translate each other.
Columns are checked once, when the catalog is built.
-/

namespace Polyquery

/-- A concept: its place in every column. -/
structure Concept where
  index : Nat
  deriving Repr, DecidableEq

namespace Concept

def display (concept : Concept) : Text :=
  '#' :: Text.decimal concept.index

instance : Ord Concept :=
  ⟨compareOn index⟩

instance : Std.TransOrd Concept :=
  inferInstanceAs (Std.TransCmp (compareOn index))

instance : Std.LawfulEqOrd Concept where
  eq_of_compare {a b} h := by
    have hindex : compare a.index b.index = .eq := h
    cases a
    cases b
    exact congrArg Concept.mk (Std.LawfulEqOrd.compare_eq_iff_eq.1 hindex)

end Concept

structure Column where
  surface : List Text
  folded : List Text
  folded_eq : folded = surface.map Text.folded
  deriving DecidableEq

def Column.ofTerms (terms : List Text) : Column :=
  { surface := terms, folded := terms.map Text.folded, folded_eq := rfl }

inductive CatalogError where
  | noCanonicalColumn
  | noConcepts
  | unequalColumn (language : Language) (length expected : Nat)
  | blankTerm (language : Language) (index : Nat)
  deriving Repr, DecidableEq

def CatalogError.message : CatalogError → Text
  | .noCanonicalColumn =>
    "catalog has no ".toList ++ Language.canonical.code.quoted ++ " column".toList
  | .noConcepts => "catalog has no concepts".toList
  | .unequalColumn language length expected =>
    "column ".toList ++ language.code.quoted ++ " has ".toList ++ Text.decimal length ++
      " terms, expected ".toList ++ Text.decimal expected ++ " like ".toList ++
      Language.canonical.code.quoted
  | .blankTerm language index =>
    "column ".toList ++ language.code.quoted ++ " has an empty term at index ".toList ++
      Text.decimal index

/-- Columns that have been checked: the canonical language has one, there is a concept, every column has
a term for each concept, and no term is blank. -/
structure Catalog where
  columns : LanguageMap Column
  size : Nat
  canonical_isSome : (columns.get? Language.canonical).isSome = true
  size_pos : 0 < size
  aligned : ∀ language column, columns.get? language = some column → column.surface.length = size
  nonblank : ∀ language column, columns.get? language = some column →
    ∀ term ∈ column.surface, Text.isBlankText term = false

namespace Catalog

def columnFault? (size : Nat) (language : Language) (terms : List Text) : Option CatalogError :=
  if terms.length ≠ size then some (.unequalColumn language terms.length size)
  else (terms.findIdx? Text.isBlankText).map (.blankTerm language)

def firstFault? (size : Nat) (terms : LanguageMap (List Text)) : Option CatalogError :=
  terms.toList.findSome? fun entry => columnFault? size entry.1 entry.2

theorem columnFault?_eq_none {size : Nat} {language : Language} {terms : List Text} :
    columnFault? size language terms = none ↔
      terms.length = size ∧ ∀ term ∈ terms, Text.isBlankText term = false := by
  unfold columnFault?
  split
  · simp_all
  · rename_i h
    simp_all

theorem firstFault?_eq_none {size : Nat} {terms : LanguageMap (List Text)} :
    firstFault? size terms = none ↔ ∀ language column, terms.get? language = some column →
      column.length = size ∧ ∀ term ∈ column, Text.isBlankText term = false := by
  simp only [firstFault?, List.findSome?_eq_none_iff, columnFault?_eq_none, Prod.forall,
    LanguageMap.mem_toList]

def ofColumns (terms : LanguageMap (List Text)) : Except CatalogError Catalog :=
  match hcanonical : terms.get? Language.canonical with
  | none => .error .noCanonicalColumn
  | some canonical =>
    if hsize : canonical.length = 0 then .error .noConcepts
    else
      match hfault : firstFault? canonical.length terms with
      | some fault => .error fault
      | none =>
        .ok {
          columns := terms.mapValues Column.ofTerms
          size := canonical.length
          canonical_isSome := by simp [hcanonical]
          size_pos := Nat.pos_of_ne_zero hsize
          aligned := by
            intro language column hcolumn
            obtain ⟨list, hlist, rfl⟩ : ∃ list, terms.get? language = some list ∧
                Column.ofTerms list = column := by simpa using hcolumn
            exact (firstFault?_eq_none.1 hfault language list hlist).1
          nonblank := by
            intro language column hcolumn
            obtain ⟨list, hlist, rfl⟩ : ∃ list, terms.get? language = some list ∧
                Column.ofTerms list = column := by simpa using hcolumn
            exact (firstFault?_eq_none.1 hfault language list hlist).2 }

def concepts (catalog : Catalog) : List Concept :=
  (List.range catalog.size).map Concept.mk

def languages (catalog : Catalog) : LanguageSet :=
  catalog.columns.languages

def hasLanguage (catalog : Catalog) (language : Language) : Bool :=
  (catalog.columns.get? language).isSome

def terms? (catalog : Catalog) (language : Language) : Option (List Text) :=
  (catalog.columns.get? language).map Column.surface

def surface? (catalog : Catalog) (language : Language) (concept : Concept) : Option Text :=
  (catalog.columns.get? language).bind fun column => column.surface[concept.index]?

def candidates (catalog : Catalog) (language : Language) (key : Text) : List Concept :=
  match catalog.columns.get? language with
  | none => []
  | some column =>
    (column.folded.zipIdx.filter fun entry => decide (entry.1 = key)).map fun entry =>
      { index := entry.2 }

/-- The first candidate that is admitted.  Those before it are asked about and passed over. -/
def find? (catalog : Catalog) (language : Language) (key : Text) (accept : Concept → Bool) :
    Option Concept :=
  (catalog.candidates language key).find? accept

def findM? {m : Type → Type} [Monad m] (catalog : Catalog) (language : Language) (key : Text)
    (accept : Concept → m Bool) : m (Option Concept) :=
  (catalog.candidates language key).findM? accept

end Catalog
end Polyquery
