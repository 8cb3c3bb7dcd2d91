import Polyquery.Language

/-!
# Sets of languages

A set of languages is one bit per language, the first language at the lowest bit.  Every bit stands for
a language, so the complement is again such a set.
-/

namespace Polyquery

structure LanguageSet where
  bits : BitVec Language.count
  deriving Repr, DecidableEq

namespace LanguageSet

def empty : LanguageSet :=
  { bits := 0 }

def full : LanguageSet :=
  { bits := BitVec.allOnes Language.count }

def singleton (language : Language) : LanguageSet :=
  { bits := BitVec.twoPow Language.count language.index }

def union (a b : LanguageSet) : LanguageSet :=
  { bits := a.bits ||| b.bits }

def inter (a b : LanguageSet) : LanguageSet :=
  { bits := a.bits &&& b.bits }

def complement (a : LanguageSet) : LanguageSet :=
  { bits := ~~~a.bits }

def difference (a b : LanguageSet) : LanguageSet :=
  a.inter b.complement

def symmetricDifference (a b : LanguageSet) : LanguageSet :=
  { bits := a.bits ^^^ b.bits }

def has (set : LanguageSet) (language : Language) : Bool :=
  set.bits.getLsb language.index

def ofList (languages : List Language) : LanguageSet :=
  languages.foldl (fun set language => set.union (singleton language)) empty

def toList (set : LanguageSet) : List Language :=
  Language.all.filter set.has

def size (set : LanguageSet) : Nat :=
  set.toList.length

def isEmpty (set : LanguageSet) : Bool :=
  decide (set = empty)

def single? (set : LanguageSet) : Option Language :=
  match set.toList with
  | [language] => some language
  | _ => none

def display (set : LanguageSet) : Text :=
  "\x7b".toList ++ Text.listed (set.toList.map Language.code) ++ "\x7d".toList

@[simp] theorem has_empty (language : Language) : empty.has language = false := by
  simp [has, empty]

@[simp] theorem has_full (language : Language) : full.has language = true := by
  simp [has, full]

@[simp] theorem has_union (a b : LanguageSet) (language : Language) :
    (a.union b).has language = (a.has language || b.has language) := by
  simp [has, union]

@[simp] theorem has_inter (a b : LanguageSet) (language : Language) :
    (a.inter b).has language = (a.has language && b.has language) := by
  simp [has, inter]

@[simp] theorem has_singleton (a b : Language) :
    (singleton a).has b = decide (a = b) := by
  cases a <;> cases b <;> decide

@[simp] theorem mem_toList {set : LanguageSet} {language : Language} :
    language ∈ set.toList ↔ set.has language = true := by
  simp [toList, Language.mem_all]

theorem eq_of_has {a b : LanguageSet} (h : ∀ language, a.has language = b.has language) :
    a = b := by
  cases a with
  | mk left =>
      cases b with
      | mk right =>
          congr
          apply BitVec.eq_of_getLsbD_eq
          intro place hplace
          rcases Language.exists_index ⟨place, hplace⟩ with ⟨language, hindex⟩
          have hbit := h language
          simp only [has, hindex] at hbit
          exact hbit

@[simp] theorem has_ofList {languages : List Language} {language : Language} :
    (ofList languages).has language = true ↔ language ∈ languages := by
  suffices h : ∀ set : LanguageSet,
      (languages.foldl (fun set language => set.union (singleton language)) set).has language =
          true ↔ set.has language = true ∨ language ∈ languages by
    simpa [ofList] using h empty
  induction languages with
  | nil => simp
  | cons first rest ih =>
      intro set
      rw [List.foldl_cons, ih, has_union, has_singleton, Bool.or_eq_true, decide_eq_true_iff,
        List.mem_cons, or_assoc, @eq_comm _ first]

theorem has_of_isEmpty {set : LanguageSet} (h : set.isEmpty = true) (language : Language) :
    set.has language = false := by
  rw [of_decide_eq_true h, has_empty]

end LanguageSet
end Polyquery
