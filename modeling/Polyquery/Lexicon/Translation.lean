import Polyquery.Lexicon.Basic
import Polyquery.Query.Piece

/-!
# Translation

A query is translated segment by segment.  A segment whose term is known gets the term of the same concept
in the target language; its marks, the separators, and every other segment stay as they are.  What should
be known about the result is reported beside it: warnings about single terms, each at most once, and
diagnostics about the query.
-/

namespace Polyquery

/-- The side of a translation on which a term stands. -/
inductive WarningRole where
  | source
  | target
  deriving Repr, DecidableEq

structure Warning where
  term : Text
  language : Language
  role : WarningRole
  message : Text
  deriving Repr, DecidableEq

def Warning.display (warning : Warning) : Text :=
  "[".toList ++ warning.language.code ++ "] ".toList ++ warning.message

inductive Diagnostic where
  | unresolved (term : Text) (type : SearchType)
  | unsupportedLanguage (language : Language)
  | undetectedLanguage
  | ambiguousLanguage (candidates : LanguageSet) (chosen : Language)
  deriving Repr, DecidableEq

def SearchType.title : SearchType → Text
  | .move => "Move".toList
  | .search => "Search".toList
  | .name => "Name".toList

def Diagnostic.display : Diagnostic → Text
  | .unresolved term type =>
    "no translation for ".toList ++ term.quoted ++ " (".toList ++ type.title ++ ")".toList
  | .unsupportedLanguage language =>
    "catalog has no ".toList ++ language.code.quoted ++ " column".toList
  | .undetectedLanguage => "could not detect the query language; left unchanged".toList
  | .ambiguousLanguage candidates chosen =>
    "query could be any of ".toList ++ candidates.display ++ "; read it as ".toList ++
      chosen.code.quoted

@[ext]
structure Translation where
  text : Text
  warnings : List Warning
  diagnostics : List Diagnostic
  deriving Repr, DecidableEq

structure Occurrence where
  term : Text
  language : Language
  role : WarningRole
  type : SearchType
  deriving Repr, DecidableEq

/-- A translation in the making, with the term, language and side of every warning reported so far. -/
structure Translator where
  out : Translation
  fired : List (WarningKey × WarningRole)
  deriving Repr, DecidableEq

namespace Translator

def start : Translator :=
  { out := { text := [], warnings := [], diagnostics := [] }, fired := [] }

def write (translator : Translator) (text : Text) : Translator :=
  { translator with out.text := translator.out.text ++ text }

def report (translator : Translator) (diagnostic : Diagnostic) : Translator :=
  { translator with out.diagnostics := translator.out.diagnostics ++ [diagnostic] }

variable (lexicon : Lexicon)

/-- Reports that there is no column for a language, unless that was reported before. -/
def checkLanguage (translator : Translator) (language : Language) : Translator :=
  if lexicon.catalog.hasLanguage language ∨
      .unsupportedLanguage language ∈ translator.out.diagnostics then translator
  else translator.report (.unsupportedLanguage language)

/-- Reports the warning about a term, unless one with its key was reported before. -/
def fire (translator : Translator) (met : Occurrence) : Translator :=
  match lexicon.warnings.lookup? met.term met.language met.type with
  | none => translator
  | some entry =>
    let key : WarningKey × WarningRole := (.ofTerm met.term met.language, met.role)
    if key ∈ translator.fired then translator
    else
      let message :=
        match met.role with
        | .source => entry.sourceMessage
        | .target => entry.targetMessage
      let warning : Warning :=
        { term := met.term, language := met.language, role := met.role, message }
      { out := { translator.out with warnings := translator.out.warnings ++ [warning] }
        fired := key :: translator.fired }

variable (source target : Language)

def checkLanguages (translator : Translator) : Translator :=
  [source, target].foldl (checkLanguage lexicon) translator

def segment (translator : Translator) (text : Text) : Text × Translator :=
  let segment := Segment.ofText text
  if segment.hasTerm then
    match lexicon.resolve? segment.core source segment.searchType with
    | none => (text, translator.report (.unresolved segment.core segment.searchType))
    | some concept =>
      match lexicon.catalog.surface? target concept with
      | none => (text, translator)
      | some term =>
        let type := segment.searchType
        let before := translator.fire lexicon
          { term := segment.core, language := source, role := .source, type }
        let after := before.fire lexicon { term, language := target, role := .target, type }
        (segment.withCore term, after)
  else (text, translator)

def step (translator : Translator) : Piece → Translator
  | .segment text =>
    let (translated, after) := translator.segment lexicon source target text
    after.write translated
  | .separator c => translator.write [c]

def run (translator : Translator) (text : Text) : Translator :=
  (Piece.ofText text).foldl (step lexicon source target) translator

end Translator

namespace Lexicon

/-- The query in the target language.  A query is not changed when both languages are the same. -/
def translate (lexicon : Lexicon) (text : Text) (source target : Language) : Translation :=
  if source = target then { text := text, warnings := [], diagnostics := [] }
  else
    let ready := Translator.start.checkLanguages lexicon source target
    (ready.run lexicon source target text).out

def translateAll (lexicon : Lexicon) (texts : List Text) (source target : Language) :
    List Translation :=
  texts.map fun text => lexicon.translate text source target

end Lexicon
end Polyquery
