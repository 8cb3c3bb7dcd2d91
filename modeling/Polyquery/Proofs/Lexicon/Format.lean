import Polyquery.Lexicon.Format
import Polyquery.Proofs.Json.Decoding
import Polyquery.Proofs.Lexicon.Saving

/-!
# Written documents

A document is read back from its JSON text as it was, provided that the indices of its concepts are numbers of
64 bits, as the reader demands.  So is the document of a lexicon, which makes the lexicon again.
-/

namespace Polyquery

open Json

theorem SearchType.decode_toJson (type : SearchType) :
    SearchType.decode type.toJson.outline = .ok type := by
  apply oneOf_string
  cases type <;> decide +kernel

theorem Qualifier.decode_toJson (qualifier : Qualifier) :
    Qualifier.decode qualifier.toJson.outline = .ok qualifier := by
  apply oneOf_string
  rcases qualifier with _ | ⟨_ | _ | _⟩ <;> decide +kernel

namespace Language

theorem decodeCode_code (language : Language) : decodeCode language.code = .ok language := by
  rw [decodeCode, ofCode?_code]

theorem decode_toJson (language : Language) : decode language.toJson.outline = .ok language :=
  decodeCode_code language

end Language

namespace LanguageMap

variable {α : Type} {language : Language} {a : α}

theorem eq_of_get? {left right : LanguageMap α}
    (h : ∀ language, left.get? language = right.get? language) : left = right := by
  rcases left with ⟨left⟩
  rcases right with ⟨right⟩
  rw [mk.injEq]
  ext place hplace : 1
  rcases Language.exists_index ⟨place, hplace⟩ with ⟨language, hindex⟩
  have hslot := h language
  simp only [get?, hindex] at hslot
  exact hslot

theorem get?_foldl_insert {entries : List (Language × α)} {map : LanguageMap α}
    (hdistinct : entries.Pairwise fun a b => a.1 ≠ b.1) :
    (entries.foldl (fun map entry => map.insert entry.1 entry.2) map).get? language = some a ↔
      (language, a) ∈ entries ∨
        ((∀ entry ∈ entries, entry.1 ≠ language) ∧ map.get? language = some a) := by
  induction entries generalizing map with
  | nil => simp
  | cons first rest ih =>
      rcases first with ⟨earlier, value⟩
      rw [List.pairwise_cons] at hdistinct
      rw [List.foldl_cons, ih hdistinct.right, LanguageMap.get?_insert, List.mem_cons, Prod.mk.injEq,
        List.forall_mem_cons]
      by_cases hearlier : earlier = language
      · subst hearlier
        have hrest : (earlier, a) ∉ rest := fun hmem => hdistinct.left _ hmem rfl
        have hother : ∀ entry ∈ rest, entry.1 ≠ earlier :=
          fun entry hentry => (hdistinct.left entry hentry).symm
        rw [if_pos rfl, Option.some.injEq]
        constructor
        · rintro (hmem | ⟨_, rfl⟩)
          · exact absurd hmem hrest
          · exact Or.inl (Or.inl ⟨rfl, rfl⟩)
        · rintro ((⟨_, rfl⟩ | hmem) | ⟨⟨hne, _⟩, _⟩)
          · exact Or.inr ⟨hother, rfl⟩
          · exact absurd hmem hrest
          · exact absurd rfl hne
      · have hne : language ≠ earlier := fun hsame => hearlier hsame.symm
        rw [if_neg hearlier]
        simp [hearlier, hne]

theorem ofList_toList (map : LanguageMap α) : ofList map.toList = map := by
  have hdistinct : map.toList.Pairwise fun a b => a.1 ≠ b.1 := by
    refine map.pairwise_toList.imp ?_
    intro a b hlt hsame
    rw [hsame] at hlt
    exact Nat.lt_irrefl _ hlt
  apply eq_of_get?
  intro language
  ext a
  rw [ofList, get?_foldl_insert hdistinct, mem_toList, get?_empty]
  simp

end LanguageMap

/-!
# Records
-/

theorem PinRecord.decode_toJson {pin : PinRecord} (h : pin.concept.index < Nat.pow 2 64) :
    PinRecord.decode pin.toJson.outline = .ok pin :=
  Shape.decode_object (by decide +kernel)
    (.cons (read_eq_ok (natural_number h) _)
      (.cons (read_eq_ok pin.language.decode_toJson _)
        (.cons (read_eq_ok pin.type.decode_toJson _) (.nil _))))

theorem WarningRecord.decode_toJson (warning : WarningRecord) :
    WarningRecord.decode warning.toJson.outline = .ok warning :=
  Shape.decode_object (by decide +kernel)
    (.cons (read_eq_ok (text_string _ warning.term) _)
      (.cons (read_eq_ok warning.language.decode_toJson _)
        (.cons (read_eq_ok warning.entry.qualifier.decode_toJson _)
          (.cons (read_eq_ok (text_string _ warning.entry.sourceMessage) _)
            (.cons (read_eq_ok (text_string _ warning.entry.targetMessage) _) (.nil _))))))

namespace CatalogDocument

/-- The concepts of the pins have indices of 64 bits. -/
def InRange (document : CatalogDocument) : Prop :=
  ∀ pin ∈ document.pins, pin.concept.index < Nat.pow 2 64

variable {document : CatalogDocument}

theorem decode_toJson (h : document.InRange) : decode document.toJson.outline = .ok document := by
  have hcolumns : (Json.object (document.languages.toList.map fun entry =>
      (entry.1.code, .array (entry.2.map .string)))).outline.members Language.decodeCode
        (Outline.list (Outline.text "a string".toList)) = .ok document.languages.toList :=
    @members_object _ _ _ _ Language.code (fun terms : List Text => .array (terms.map .string)) _
      (fun entry _ => entry.1.decodeCode_code) fun _ _ => list_array fun term _ => text_string _ term
  have hpins : (Json.array (document.pins.map PinRecord.toJson)).outline.list PinRecord.decode =
      .ok document.pins :=
    list_array fun pin hpin => PinRecord.decode_toJson (h pin hpin)
  have hwarnings : (Json.array (document.warnings.map WarningRecord.toJson)).outline.list
      WarningRecord.decode = .ok document.warnings :=
    list_array fun warning _ => warning.decode_toJson
  have hread := @Shape.decode_object _ shape empty _ (by decide +kernel) _
    (.cons (read_eq_ok hcolumns _) (.cons (read_eq_ok hpins _)
      (.cons (read_eq_ok hwarnings _) (.nil _))))
  rw [LanguageMap.ofList_toList] at hread
  exact hread

/-!
# Lexicons
-/

variable {lexicon : Lexicon} {symbols : List Symbol}

theorem InRange.toDocument (hrange : document.InRange) (h : document.toLexicon = .ok lexicon) :
    lexicon.toDocument.InRange := by
  intro pin hpin
  have hlast := ((tidies_of_toLexicon h).mem_pins pin).mp hpin
  exact hrange pin hlast.mem

theorem ofSymbols_of_marks (hrange : document.InRange)
    (hmarks : Mark.list symbols = document.toJson.marks ++ [.ended .finished]) :
    Lexicon.ofSymbols symbols = document.toLexicon.mapError .document := by
  rw [Lexicon.ofSymbols, decodeSymbols_of_marks hmarks, decode_toJson hrange]
  rfl

/-- The document of a lexicon, written in either way, is read as a lexicon with the same document. -/
theorem exists_again (hrange : document.InRange) (h : document.toLexicon = .ok lexicon)
    (hmarks : Mark.list symbols = lexicon.toDocument.toJson.marks ++ [.ended .finished]) :
    ∃ again, Lexicon.ofSymbols symbols = .ok again ∧ again.toDocument = lexicon.toDocument := by
  have hpins := lexicon.getElem?_pinTable_toDocument
  have hwarnings :=
    Lexicon.getElem?_warningTable_toDocument (Lexicon.upperWarnings_of_toLexicon h)
  have hread := ofSymbols_of_marks (hrange.toDocument h) hmarks
  rw [toLexicon_toDocument h] at hread
  exact ⟨_, hread, Lexicon.toDocument_congr rfl hpins hwarnings⟩

theorem inRange_repeated : repeated.InRange := by
  unfold InRange
  decide

end CatalogDocument
end Polyquery
