import Polyquery.CommandLine.Arguments
import Polyquery.CommandLine.Outcome
import Polyquery.Engine.Basic

/-!
# Runs

A run reads the configuration file, if one is given, sets up an engine, and lets it do the task.  Where
files come from is left open, so that a run can be followed in a file tree as well as on a disk.
-/

namespace Polyquery
namespace CommandLine

def programName : Text := "searchlingo".toList

def version : Text := "0.1.0".toList

def usage : Text :=
  lines ["Usage: ".toList ++ programName ++
    " [--catalog FILE] [--config FILE] (check|parse|translate|detect) QUERY...".toList]

def notes (warnings : List Warning) (diagnostics : List Diagnostic) : Text :=
  lines (warnings.map (fun warning => "warning: ".toList ++ warning.display) ++
    diagnostics.map (fun diagnostic => "note: ".toList ++ diagnostic.display))

def isRejected (extraction : Extraction) : Bool :=
  extraction.conflicts.any fun conflict =>
    match conflict.kind with
    | .refused => true
    | .unparsed => true
    | _ => false

def answer (engine : Engine) : Task → Outcome
  | .check query =>
    match Query.check query with
    | .ok () => { code := 0, output := lines ["ok".toList], report := [] }
    | .error error => { code := Outcome.failure, output := lines [error.message], report := [] }
  | .parse query language =>
    let analysis := engine.analyzeIn query (language.getD engine.canonical)
    let extraction := analysis.extraction
    let tree := analysis.tree.toList.map fun tree => "tree: ".toList ++ tree.render
    { code := if isRejected extraction then Outcome.failure else 0
      output := lines (tree ++ [
        "included: ".toList ++ Text.listed extraction.included.terms,
        "excluded: ".toList ++ Text.listed extraction.excluded.terms] ++
        extraction.conflicts.map fun conflict => "conflict: ".toList ++ conflict.detail)
      report := notes analysis.warnings analysis.diagnostics }
  | .translate queries source target =>
    let translations :=
      match source with
      | some source => engine.translateAll queries source target
      | none => queries.map fun query => engine.translateDetected query target
    { code := 0
      output := lines (translations.map Translation.text)
      report := translations.flatMap fun translation =>
        notes translation.warnings translation.diagnostics }
  | .detect query =>
    let candidates := engine.detect query
    { code := 0
      output := lines <|
        if candidates.isEmpty then ["no language matches every term".toList]
        else candidates.toList.map Language.code
      report := [] }

def rulesWarning (path : Path) : Text :=
  lines ["WARN ".toList ++ programName ++ "::config: config ".toList ++ path.text ++
    " disables every conflict rule".toList]

/-- The configuration of a run, and what is to be reported about it. -/
def configure {m : Type → Type} [Monad m] (openFile : Path → m (Except FileFault ByteStream)) :
    Option Path → m (Except ConfigError (EngineConfig × Text))
  | none => return .ok (.standard, [])
  | some path => do
    return (EngineConfig.ofOpened path (← openFile path)).map fun config =>
      (config, if config.disablesRules then rulesWarning path else [])

def invoke {m : Type → Type} [Monad m] (openFile : Path → m (Except FileFault ByteStream))
    (invocation : Invocation) : m Outcome := do
  match ← configure openFile invocation.config with
  | .error error => return .failed error.chain
  | .ok (config, report) =>
    let config := { config with catalog := invocation.catalog.or config.catalog }
    match ← Engine.ofConfig openFile config with
    | .error error =>
      return (Outcome.failed ("Failed to set up the engine".toList :: error.chain)).after report
    | .ok engine => return (answer engine invocation.task).after report

def run {m : Type → Type} [Monad m] (openFile : Path → m (Except FileFault ByteStream))
    (arguments : List Text) : m Outcome :=
  match Request.ofArguments arguments with
  | .error error =>
    return {
      code := Outcome.misuse
      output := []
      report := lines ["error: ".toList ++ error.message] ++ usage }
  | .ok .help => return { code := 0, output := usage, report := [] }
  | .ok .version =>
    return { code := 0, output := lines [programName ++ " ".toList ++ version], report := [] }
  | .ok (.run invocation) => invoke openFile invocation

def runIn (tree : FileTree) (arguments : List Text) : Outcome :=
  Id.run (run (fun path => pure (tree.openFile path)) arguments)

end CommandLine
end Polyquery
