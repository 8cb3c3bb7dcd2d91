import Polyquery.Language.Set

/-!
# Maps from languages

A map from languages holds one slot per language, so the order in which entries were put in leaves no
trace and a later entry replaces an earlier one.
-/

namespace Polyquery

structure LanguageMap (α : Type) where
  slots : Vector (Option α) Language.count
  deriving DecidableEq

namespace LanguageMap

variable {α β : Type}

def empty : LanguageMap α :=
  { slots := Vector.replicate Language.count none }

def get? (map : LanguageMap α) (language : Language) : Option α :=
  map.slots[language.index]

def insert (map : LanguageMap α) (language : Language) (a : α) : LanguageMap α :=
  { slots := map.slots.set language.index (some a) }

def mapValues (f : α → β) (map : LanguageMap α) : LanguageMap β :=
  { slots := map.slots.map (Option.map f) }

def languages (map : LanguageMap α) : LanguageSet :=
  .ofList (Language.all.filter fun language => (map.get? language).isSome)

def toList (map : LanguageMap α) : List (Language × α) :=
  Language.all.filterMap fun language => (map.get? language).map fun a => (language, a)

def ofList (entries : List (Language × α)) : LanguageMap α :=
  entries.foldl (fun map entry => map.insert entry.1 entry.2) empty

@[simp] theorem get?_empty (language : Language) : (empty : LanguageMap α).get? language = none := by
  simp [get?, empty]

theorem get?_insert (map : LanguageMap α) (a b : Language) (value : α) :
    (map.insert a value).get? b = if a = b then some value else map.get? b := by
  by_cases h : a = b
  · subst h
    simp [get?, insert]
  · have hne : (a.index : Nat) ≠ b.index :=
      fun hidx => h (Language.index_injective (Fin.ext hidx))
    simp [get?, insert, h, hne]

@[simp] theorem get?_mapValues (f : α → β) (map : LanguageMap α) (language : Language) :
    (map.mapValues f).get? language = (map.get? language).map f := by
  simp [get?, mapValues]

theorem mem_toList {map : LanguageMap α} {language : Language} {a : α} :
    (language, a) ∈ map.toList ↔ map.get? language = some a := by
  simp only [toList, List.mem_filterMap, Option.map_eq_some_iff, Prod.mk.injEq]
  constructor
  · rintro ⟨_, _, _, h, rfl, rfl⟩
    exact h
  · intro h
    exact ⟨language, Language.mem_all language, a, h, rfl, rfl⟩

@[simp] theorem has_languages {map : LanguageMap α} {language : Language} :
    map.languages.has language = (map.get? language).isSome := by
  rw [Bool.eq_iff_iff, languages, LanguageSet.has_ofList, List.mem_filter]
  simp [Language.mem_all]

end LanguageMap
end Polyquery
