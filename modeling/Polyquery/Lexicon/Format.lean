import Polyquery.Json.Decoder
import Polyquery.Lexicon.Document

/-!
# The written form of catalog documents

A document is a JSON object with the columns under their language codes, a list of pins, called overlaps,
and a list of warnings.  The two lists may be left out.  If a language is given twice, the later column
counts.
-/

namespace Polyquery

open Json

namespace SearchType

def names : List (Text × SearchType) := [
  ("move".toList, .move), ("search".toList, .search), ("name".toList, .name)]

def fileName : SearchType → Text
  | .move => "move".toList
  | .search => "search".toList
  | .name => "name".toList

def toJson (type : SearchType) : Json :=
  .string type.fileName

def decode (outline : Outline) : Decoded SearchType :=
  outline.oneOf names

end SearchType

namespace Qualifier

def names : List (Text × Qualifier) := [
  ("*".toList, .any), ("move".toList, .only .move), ("search".toList, .only .search),
  ("name".toList, .only .name)]

def fileName : Qualifier → Text
  | .any => "*".toList
  | .only type => type.fileName

def toJson (qualifier : Qualifier) : Json :=
  .string qualifier.fileName

def decode (outline : Outline) : Decoded Qualifier :=
  outline.oneOf names

end Qualifier

namespace Language

def toJson (language : Language) : Json :=
  .string language.code

def decodeCode (code : Text) : Decoded Language :=
  match ofCode? code with
  | some language => .ok language
  | none => .error (.refused (unknownCode code))

def decode (outline : Outline) : Decoded Language := do
  decodeCode (← outline.text "a string".toList)

end Language

namespace PinRecord

def toJson (pin : PinRecord) : Json :=
  .object [
    ("concept".toList, .number pin.concept.index),
    ("language".toList, pin.language.toJson),
    ("search_type".toList, pin.type.toJson)]

def shape : Shape PinRecord :=
  { name := "struct OverlapRecord".toList
    fields := [
      { name := "concept".toList
        read := fun outline pin => do
          return { pin with concept := { index := ← outline.natural } }
        required := true },
      { name := "language".toList
        read := fun outline pin => do return { pin with language := ← Language.decode outline }
        required := true },
      { name := "search_type".toList
        read := fun outline pin => do return { pin with type := ← SearchType.decode outline }
        required := true }]
    strict := false }

def decode (outline : Outline) : Decoded PinRecord :=
  shape.decode { concept := { index := 0 }, language := .english, type := .name } outline

end PinRecord

namespace WarningRecord

def toJson (warning : WarningRecord) : Json :=
  .object [
    ("term".toList, .string warning.term),
    ("language".toList, warning.language.toJson),
    ("qualifier".toList, warning.entry.qualifier.toJson),
    ("source_message".toList, .string warning.entry.sourceMessage),
    ("target_message".toList, .string warning.entry.targetMessage)]

def shape : Shape WarningRecord :=
  { name := "struct WarningRecord".toList
    fields := [
      { name := "term".toList
        read := fun outline warning => do
          return { warning with term := ← outline.text "a string".toList }
        required := true },
      { name := "language".toList
        read := fun outline warning => do
          return { warning with language := ← Language.decode outline }
        required := true },
      { name := "qualifier".toList
        read := fun outline warning => do
          return { warning with entry.qualifier := ← Qualifier.decode outline }
        required := true },
      { name := "source_message".toList
        read := fun outline warning => do
          return { warning with entry.sourceMessage := ← outline.text "a string".toList }
        required := true },
      { name := "target_message".toList
        read := fun outline warning => do
          return { warning with entry.targetMessage := ← outline.text "a string".toList }
        required := true }]
    strict := false }

def decode (outline : Outline) : Decoded WarningRecord :=
  shape.decode
    { term := []
      language := .english
      entry := { qualifier := .any, sourceMessage := [], targetMessage := [] } }
    outline

end WarningRecord

namespace CatalogDocument

def toJson (document : CatalogDocument) : Json :=
  .object [
    ("languages".toList, .object (document.languages.toList.map fun (language, terms) =>
      (language.code, .array (terms.map .string)))),
    ("overlaps".toList, .array (document.pins.map PinRecord.toJson)),
    ("warnings".toList, .array (document.warnings.map WarningRecord.toJson))]

def shape : Shape CatalogDocument :=
  { name := "struct CatalogDocument".toList
    fields := [
      { name := "languages".toList
        read := fun outline document => do
          let columns ← outline.members Language.decodeCode
            (Outline.list (Outline.text "a string".toList))
          return { document with languages := .ofList columns }
        required := true },
      { name := "overlaps".toList
        read := fun outline document => do
          return { document with pins := ← outline.list PinRecord.decode }
        required := false },
      { name := "warnings".toList
        read := fun outline document => do
          return { document with warnings := ← outline.list WarningRecord.decode }
        required := false }]
    strict := false }

def empty : CatalogDocument :=
  { languages := .empty, pins := [], warnings := [] }

def decode (outline : Outline) : Decoded CatalogDocument :=
  shape.decode empty outline

def write (document : CatalogDocument) : Text :=
  document.toJson.compact

end CatalogDocument

inductive LexiconError where
  | json (error : DecodeError)
  | document (error : DocumentError)
  deriving Repr, DecidableEq

def LexiconError.chain : LexiconError → List Text
  | .json error => ["Failed to decode catalog document".toList, error.message]
  | .document error => error.chain

namespace Lexicon

def ofSymbols (symbols : List Symbol) : Except LexiconError Lexicon := do
  let document ← (decodeSymbols CatalogDocument.decode symbols).mapError .json
  document.toLexicon.mapError .document

def read (text : Text) : Except LexiconError Lexicon :=
  ofSymbols (Symbol.ofText text)

end Lexicon
end Polyquery
