import Polyquery.Engine.Config
import Polyquery.Proofs.Lexicon.Format

/-!
# Written rules, configurations and lexicons

Every value that is written as JSON is read back from its text.
-/

namespace Polyquery

open Json

theorem ExclusivePair.decode_toJson (pair : ExclusivePair) :
    ExclusivePair.decode pair.toJson.outline = .ok pair := rfl

theorem Category.decode_toJson (category : Category) :
    Category.decode category.toJson.outline = .ok category := by
  have hmembers : (Json.array (category.members.map .string)).outline.list
      (Outline.text "a string".toList) = .ok category.members :=
    list_array fun member _ => text_string _ member
  exact Shape.decode_object (by decide +kernel)
    (.cons (read_eq_ok (text_string _ category.name) _)
      (.cons (read_eq_ok hmembers _) (.nil _)))

theorem ConflictRules.decode_toJson (rules : ConflictRules) :
    ConflictRules.decode rules.toJson.outline = .ok rules := by
  have hexclusive : (Json.array (rules.exclusive.map ExclusivePair.toJson)).outline.list
      ExclusivePair.decode = .ok rules.exclusive :=
    list_array fun pair _ => pair.decode_toJson
  have hcategories : (Json.array (rules.categories.map Category.toJson)).outline.list
      Category.decode = .ok rules.categories :=
    list_array fun category _ => category.decode_toJson
  exact Shape.decode_object (by decide +kernel)
    (.cons (read_eq_ok hexclusive _) (.cons (read_eq_ok hcategories _) (.nil _)))

theorem EngineConfig.decode_object {canonical : Language} {catalog : Option Path}
    {rules : ConflictRules} {json : Json}
    (hcatalog : json.outline.optional (Outline.text "path string".toList) =
      .ok (catalog.map Path.text)) :
    EngineConfig.decode (Json.object [("canonical".toList, canonical.toJson),
      ("catalog".toList, json), ("rules".toList, rules.toJson)]).outline =
        .ok ⟨canonical, catalog, rules⟩ := by
  have hread := @Shape.decode_object _ shape standard _ (by decide +kernel) _
    (.cons (read_eq_ok canonical.decode_toJson _) (.cons (read_eq_ok hcatalog _)
      (.cons (read_eq_ok rules.decode_toJson _) (.nil _))))
  have hsame : (catalog.map Path.text).map Path.mk = catalog := by
    cases catalog with
    | none => rfl
    | some path => rfl
  rw [hsame] at hread
  exact hread

theorem EngineConfig.decode_toJson (config : EngineConfig) :
    EngineConfig.decode config.toJson.outline = .ok config := by
  rcases config with ⟨canonical, catalog, rules⟩
  cases catalog with
  | none => exact decode_object rfl
  | some path => exact decode_object rfl

/-- Documents, rules and configurations are read back from their compact texts, and a lexicon is read back
from the text of its document as a lexicon with the same document. -/
theorem written_forms_read_back (document : CatalogDocument) (hrange : document.InRange)
    (rules : ConflictRules) (config : EngineConfig) :
    decodeText CatalogDocument.decode document.write = .ok document ∧
      ConflictRules.read rules.write = .ok rules ∧
      EngineConfig.read config.write = .ok config ∧
      ∀ lexicon, document.toLexicon = .ok lexicon →
        ∃ again, Lexicon.read lexicon.toDocument.write = .ok again ∧
          again.toDocument = lexicon.toDocument := by
  refine ⟨?_, ?_, ?_, ?_⟩
  · rw [CatalogDocument.write, decodeText_compact, CatalogDocument.decode_toJson hrange]
  · rw [ConflictRules.read, ConflictRules.write, decodeText_compact, ConflictRules.decode_toJson]
  · rw [EngineConfig.read, EngineConfig.write, decodeText_compact, EngineConfig.decode_toJson]
  · intro lexicon h
    exact CatalogDocument.exists_again hrange h
      (Mark.list_compact_self lexicon.toDocument.toJson)

def escapedTerm : CatalogDocument :=
  { languages := .ofList [(.english, ["\"\\\n\u0001é".toList])]
    pins := [⟨⟨Nat.pow 2 64 - 1⟩, .german, .move⟩]
    warnings := [] }

theorem written_forms_read_back_escaped :
    escapedTerm.write = ("\x7b\"languages\":\x7b\"en\":[\"\\\"\\\\\\n\\u0001é\"]\x7d,\"overlaps\":" ++
        "[\x7b\"concept\":18446744073709551615,\"language\":\"de\",\"search_type\":\"move\"\x7d]," ++
        "\"warnings\":[]\x7d").toList ∧
      decodeText CatalogDocument.decode escapedTerm.write = .ok escapedTerm ∧
      EngineConfig.read (EngineConfig.write ⟨.german, some ⟨"a/\"b\"".toList⟩, .none⟩) =
        .ok ⟨.german, some ⟨"a/\"b\"".toList⟩, .none⟩ ∧
      ∃ lexicon, CatalogDocument.repeated.toLexicon = .ok lexicon ∧
        ∃ again, Lexicon.read lexicon.toDocument.write = .ok again ∧
          again.toDocument = lexicon.toDocument := by
  have hescaped : escapedTerm.InRange := by
    intro pin hpin
    rw [List.mem_singleton.mp hpin]
    decide
  have hlexicon := eq_ok_get_toOption CatalogDocument.loads_repeated
  have hforms := written_forms_read_back escapedTerm hescaped .none
    ⟨.german, some ⟨"a/\"b\"".toList⟩, .none⟩
  have hagain := written_forms_read_back _ CatalogDocument.inRange_repeated .none .standard
  refine ⟨?_, hforms.left, hforms.right.right.left, _, hlexicon, ?_⟩
  · decide +kernel
  · exact hagain.right.right.right _ hlexicon

end Polyquery
