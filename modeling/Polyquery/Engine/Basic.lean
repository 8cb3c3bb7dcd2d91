import Polyquery.Conflict.Analysis
import Polyquery.Engine.Config
import Polyquery.Lexicon.Bundled
import Polyquery.Lexicon.Detection
import Polyquery.Lexicon.Storage
import Polyquery.Lexicon.Translation

/-!
# Engines

An engine checks, analyzes, translates and detects queries with one lexicon and one set of conflict rules.
Rules are stated in the terms of its canonical language, so a query in another language is translated
before it is analyzed.
-/

namespace Polyquery

structure Engine where
  lexicon : Lexicon
  rules : ConflictRules
  canonical : Language

inductive EngineError where
  | catalog (error : LoadError)
  | missingColumn (language : Language)
  deriving Repr, DecidableEq

def EngineError.chain : EngineError → List Text
  | .catalog error => "Failed to load configured catalog".toList :: error.chain
  | .missingColumn language => [
      "catalog has no column for canonical language ".toList ++ language.code.quoted]

structure Analysis where
  canonicalText : Text
  tree : Option Query
  extraction : Extraction
  warnings : List Warning
  diagnostics : List Diagnostic

namespace Engine

/-- The engine of a lexicon, with queries analyzed in the language that rules are usually written in. -/
def ofLexicon (lexicon : Lexicon) (rules : ConflictRules) : Engine :=
  { lexicon, rules, canonical := .canonical }

def withLexicon (config : EngineConfig) (lexicon : Lexicon) : Except EngineError Engine :=
  if lexicon.catalog.hasLanguage config.canonical then
    .ok { lexicon, rules := config.rules, canonical := config.canonical }
  else .error (.missingColumn config.canonical)

def ofConfig {m : Type → Type} [Monad m]
    (openFile : Path → m (Except FileFault ByteStream)) (config : EngineConfig) :
    m (Except EngineError Engine) := do
  match config.catalog with
  | none => return withLexicon config .bundled
  | some path =>
    match Lexicon.ofOpened path (← openFile path) with
    | .error error => return .error (.catalog error)
    | .ok lexicon => return withLexicon config lexicon

def ofConfigIn (tree : FileTree) (config : EngineConfig) : Except EngineError Engine :=
  Id.run (ofConfig (fun path => pure (tree.openFile path)) config)

def translate (engine : Engine) (text : Text) (source target : Language) : Translation :=
  engine.lexicon.translate text source target

def translateAll (engine : Engine) (texts : List Text) (source target : Language) :
    List Translation :=
  engine.lexicon.translateAll texts source target

def detect (engine : Engine) (text : Text) : LanguageSet :=
  engine.lexicon.detect text

def pickSource? (engine : Engine) (candidates : LanguageSet) : Option Language :=
  if candidates.has engine.canonical then some engine.canonical else candidates.toList.head?

/-- Translates from the language in which the query seems to be written.  The query is not changed if
there is none, and a choice between several is reported. -/
def translateDetected (engine : Engine) (text : Text) (target : Language) : Translation :=
  let candidates := engine.detect text
  match engine.pickSource? candidates with
  | none => { text, warnings := [], diagnostics := [.undetectedLanguage] }
  | some source =>
    let translation := engine.translate text source target
    if 1 < candidates.size then
      { translation with
        diagnostics := .ambiguousLanguage candidates source :: translation.diagnostics }
    else translation

def analyze (engine : Engine) (text : Text) : Extraction :=
  Query.analyze text engine.rules

def analyzeIn (engine : Engine) (text : Text) (language : Language) : Analysis :=
  let translation := engine.translate text language engine.canonical
  let (tree, extraction) := Query.analyzeWithTree translation.text engine.rules
  { canonicalText := translation.text
    tree, extraction
    warnings := translation.warnings
    diagnostics := translation.diagnostics }

end Engine
end Polyquery
