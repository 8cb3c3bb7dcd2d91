import Polyquery.Conflict.Format
import Polyquery.Files.Tree
import Polyquery.Lexicon.Format

/-!
# Engine configuration

What an engine works with: the language that queries are analyzed in, a catalog file, and conflict rules.
A configuration is a JSON object in which everything may be left out and nothing else may stand.
-/

namespace Polyquery

open Json

structure EngineConfig where
  canonical : Language
  /-- The catalog file, if it is not the bundled catalog that is used. -/
  catalog : Option Path
  rules : ConflictRules
  deriving DecidableEq

namespace EngineConfig

def standard : EngineConfig :=
  { canonical := .canonical, catalog := none, rules := .standard }

/-! ## The written form -/

def toJson (config : EngineConfig) : Json :=
  .object [
    ("canonical".toList, config.canonical.toJson),
    ("catalog".toList,
      match config.catalog with
      | some path => .string path.text
      | none => .null),
    ("rules".toList, config.rules.toJson)]

def shape : Shape EngineConfig :=
  { name := "struct EngineConfig".toList
    fields := [
      { name := "canonical".toList
        read := fun outline config => do
          return { config with canonical := ← Language.decode outline }
        required := false },
      { name := "catalog".toList
        read := fun outline config => do
          let text? ← outline.optional (Outline.text "path string".toList)
          return { config with catalog := text?.map Path.mk }
        required := false },
      { name := "rules".toList
        read := fun outline config => do
          return { config with rules := ← ConflictRules.decode outline }
        required := false }]
    strict := true }

def decode (outline : Outline) : Decoded EngineConfig :=
  shape.decode standard outline

def write (config : EngineConfig) : Text :=
  config.toJson.compact

def read (text : Text) : Decoded EngineConfig :=
  decodeText decode text

/-- There is no rule that a query could break. -/
def disablesRules (config : EngineConfig) : Bool :=
  config.rules.exclusive.isEmpty && config.rules.categories.isEmpty

end EngineConfig

/-! ## Configuration files -/

inductive ConfigError where
  | unread (path : Path) (reason : Text)
  | invalid (path : Path) (error : DecodeError)
  deriving Repr, DecidableEq

def ConfigError.chain : ConfigError → List Text
  | .unread path reason => ["Failed to read config file ".toList ++ path.text, reason]
  | .invalid path error => ["Failed to parse config file ".toList ++ path.text, error.message]

namespace EngineConfig

/-- The configuration as it is meant where it is kept: the catalog file is looked for beside it. -/
def inDirectoryOf (path : Path) (config : EngineConfig) : EngineConfig :=
  match config.catalog, path.parent? with
  | some catalog, some directory => { config with catalog := some (directory.join catalog) }
  | _, _ => config

def ofOpened (path : Path) (opened : Except FileFault ByteStream) :
    Except ConfigError EngineConfig := do
  let stream ← opened.mapError fun fault => .unread path fault.message
  let text ← stream.text.mapError (.unread path)
  let config ← (read text).mapError (.invalid path)
  return config.inDirectoryOf path

def load (tree : FileTree) (path : Path) : Except ConfigError EngineConfig :=
  ofOpened path (tree.openFile path)

end EngineConfig
end Polyquery
