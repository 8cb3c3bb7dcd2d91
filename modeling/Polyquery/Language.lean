import Polyquery.Text.Trim

/-!
# Languages

The languages a catalog column can be written in.  English is the one every catalog has.  A code is read
in any case, with underscores for dashes, and with white space around it.
-/

namespace Polyquery

inductive Language where
  | english
  | german
  | french
  | spanish
  | italian
  | brazilianPortuguese
  | japanese
  | korean
  | traditionalChinese
  | russian
  | thai
  | turkish
  | hindi
  | indonesian
  | mexicanSpanish
  deriving Repr, DecidableEq, Inhabited

namespace Language

def canonical : Language := .english

def all : List Language := [
  .english, .german, .french, .spanish, .italian, .brazilianPortuguese, .japanese, .korean,
  .traditionalChinese, .russian, .thai, .turkish, .hindi, .indonesian, .mexicanSpanish]

abbrev count : Nat := 15

def index : Language → Fin count
  | .english => 0
  | .german => 1
  | .french => 2
  | .spanish => 3
  | .italian => 4
  | .brazilianPortuguese => 5
  | .japanese => 6
  | .korean => 7
  | .traditionalChinese => 8
  | .russian => 9
  | .thai => 10
  | .turkish => 11
  | .hindi => 12
  | .indonesian => 13
  | .mexicanSpanish => 14

theorem mem_all (language : Language) : language ∈ all := by
  cases language <;> decide

theorem pairwise_all : all.Pairwise fun a b => a.index < b.index := by
  decide

theorem index_injective {a b : Language} (h : a.index = b.index) : a = b := by
  cases a <;> cases b <;> first | rfl | exact absurd h (by decide)

theorem exists_index (place : Fin count) : ∃ language : Language, language.index = place := by
  have hplaces : ∀ place : Fin count, ∃ language ∈ all, language.index = place := by
    decide
  rcases hplaces place with ⟨language, _, hindex⟩
  exact ⟨language, hindex⟩

def code : Language → Text
  | .english => "en".toList
  | .german => "de".toList
  | .french => "fr".toList
  | .spanish => "es".toList
  | .italian => "it".toList
  | .brazilianPortuguese => "pt-br".toList
  | .japanese => "ja".toList
  | .korean => "ko".toList
  | .traditionalChinese => "zh-tw".toList
  | .russian => "ru".toList
  | .thai => "th".toList
  | .turkish => "tr".toList
  | .hindi => "hi".toList
  | .indonesian => "id".toList
  | .mexicanSpanish => "es-mx".toList

/-- A code in its standard spelling: trimmed, ASCII letters in lower case, dashes for underscores. -/
def normalizedCode (code : Text) : Text :=
  (Text.trimmed code).map fun c => if c = '_' then '-' else c.toLower

def ofCode? (code : Text) : Option Language :=
  all.find? fun language => decide (language.code = normalizedCode code)

theorem ofCode?_code (language : Language) : ofCode? language.code = some language := by
  cases language <;> decide +kernel

def unknownCode (code : Text) : Text :=
  "unknown language code ".toList ++ Text.quoted code

instance : Ord Language :=
  ⟨compareOn index⟩

instance : Std.TransOrd Language :=
  inferInstanceAs (Std.TransCmp (compareOn index))

instance : Std.LawfulEqOrd Language where
  eq_of_compare {a b} h := by
    have hindex : compare a.index b.index = .eq := h
    exact index_injective (Std.LawfulEqOrd.compare_eq_iff_eq.1 hindex)

end Language
end Polyquery
