import Polyquery.Lexicon.Basic

/-!
# Catalog documents

A document holds what a lexicon is made from: the terms of every language, pins, and warnings, as plain
lists in which a key may occur more than once.  Loading checks the columns, then the pins, and lets the
last entry of a key win.  Saving lists each key once, in order.
-/

namespace Polyquery

structure PinRecord where
  concept : Concept
  language : Language
  type : SearchType
  deriving Repr, DecidableEq

structure WarningRecord where
  term : Text
  language : Language
  entry : WarningEntry
  deriving Repr, DecidableEq

structure CatalogDocument where
  languages : LanguageMap (List Text)
  pins : List PinRecord
  warnings : List WarningRecord
  deriving DecidableEq

inductive DocumentError where
  | catalog (error : CatalogError)
  | conceptOutOfRange (concept : Concept) (size : Nat)
  | foreignLanguage (language : Language)
  deriving Repr, DecidableEq

def DocumentError.chain : DocumentError → List Text
  | .catalog error => ["Invalid term catalog".toList, error.message]
  | .conceptOutOfRange concept size => [
      "overlap entry points at concept ".toList ++ Text.decimal concept.index ++
        " but the catalog has ".toList ++ Text.decimal size ++ " concepts".toList]
  | .foreignLanguage language => [
      "overlap entry names language ".toList ++ language.code.quoted ++
        " the catalog does not carry".toList]

namespace CatalogDocument

def pinFault? (catalog : Catalog) (pin : PinRecord) : Option DocumentError :=
  if catalog.size ≤ pin.concept.index then some (.conceptOutOfRange pin.concept catalog.size)
  else if !catalog.hasLanguage pin.language then some (.foreignLanguage pin.language)
  else none

def toLexicon (document : CatalogDocument) : Except DocumentError Lexicon :=
  match Catalog.ofColumns document.languages with
  | .error error => .error (.catalog error)
  | .ok catalog =>
    match document.pins.findSome? (pinFault? catalog) with
    | some fault => .error fault
    | none =>
      .ok {
        catalog := catalog
        pins := document.pins.foldl (fun table pin => table.insert pin.concept pin.language pin.type)
          .empty
        warnings := document.warnings.foldl
          (fun table warning => table.insert warning.term warning.language warning.entry) .empty }

end CatalogDocument

def Lexicon.toDocument (lexicon : Lexicon) : CatalogDocument :=
  { languages := lexicon.catalog.columns.mapValues Column.surface
    pins := lexicon.pins.toList.map fun (concept, language, type) =>
      { concept := concept, language := language, type := type }
    warnings := lexicon.warnings.toList.map fun (term, language, entry) =>
      { term := term, language := language, entry := entry } }

end Polyquery
