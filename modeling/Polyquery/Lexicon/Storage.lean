import Polyquery.Files.Tree
import Polyquery.Lexicon.Format

/-!
# Catalog files

A lexicon is kept in a file that holds its document as JSON, compressed if the name of the file ends in
`.gz`.  How it is compressed is left to a compressor, for which whoever saves a lexicon may choose any.  A file is written under another name first and then renamed, so that a reader never meets one that
is half written.  The file with the other name is removed if anything fails.
-/

namespace Polyquery

def Path.isZipped (path : Path) : Bool :=
  path.extension? = some "gz".toList

/-! ## Loading -/

inductive LoadError where
  | unopened (path : Path) (fault : FileFault)
  | invalid (path : Path) (error : LexiconError)
  deriving Repr, DecidableEq

/-- The message, with what was being done when the error arose before it. -/
def LoadError.chain : LoadError → List Text
  | .unopened path fault => ["Failed to open catalog file ".toList ++ path.text, fault.message]
  | .invalid path error => ("Failed to load catalog ".toList ++ path.text) :: error.chain

namespace Lexicon

def ofOpened (path : Path) : Except FileFault ByteStream → Except LoadError Lexicon
  | .error fault => .error (.unopened path fault)
  | .ok stream =>
    let content := if path.isZipped then stream.unzipped else stream
    (ofSymbols content.symbols).mapError (.invalid path)

def load (tree : FileTree) (path : Path) : Except LoadError Lexicon :=
  ofOpened path (tree.openFile path)

def fileContent (lexicon : Lexicon) (compress : Bytes → Bytes) (zipped : Bool) : Bytes :=
  let json := lexicon.toDocument.toJson
  if zipped then compress (Text.toUtf8 json.compact) else Text.toUtf8 json.pretty

end Lexicon

/-! ## Saving -/

inductive SaveStep where
  | createDirectory
  | createFile
  | encode
  | flush
  | finish
  | rename
  deriving Repr, DecidableEq

def SaveStep.failure : SaveStep → Text
  | .createDirectory => "Failed to create catalog directory".toList
  | .createFile => "Failed to create catalog file".toList
  | .encode => "Failed to encode catalog".toList
  | .flush => "Failed to flush catalog file".toList
  | .finish => "Failed to finish gzip stream".toList
  | .rename => "Failed to rename catalog file".toList

structure SaveError where
  step : SaveStep
  fault : FileFault
  deriving Repr, DecidableEq

def SaveError.chain (error : SaveError) : List Text :=
  [error.step.failure, error.fault.message]

/-- Saving changes a file tree, also when it fails. -/
abbrev Saving := ExceptT SaveError (StateM FileTree)

namespace Saving

/-- Faults of the machine, such as a full disk, that a step may meet besides those of the tree. -/
abbrev Faults := SaveStep → Option FileFault

def noFaults : Faults :=
  fun _ => none

def perform (faults : Faults) (step : SaveStep)
    (operation : FileTree → Except FileFault Unit × FileTree) : Saving Unit := fun tree =>
  match faults step with
  | some fault => (.error { step, fault }, tree)
  | none =>
    match operation tree with
    | (.ok (), tree) => (.ok (), tree)
    | (.error fault, tree) => (.error { step, fault }, tree)

def whole (operation : FileTree → Except FileFault FileTree) (tree : FileTree) :
    Except FileFault Unit × FileTree :=
  match operation tree with
  | .ok tree => (.ok (), tree)
  | .error fault => (.error fault, tree)

def writeAndRename (faults : Faults) (temporary path : Path) (content : Bytes) : Saving Unit := do
  perform faults .createFile (whole fun tree => tree.write temporary [])
  perform faults .encode (whole .ok)
  perform faults .flush (whole fun tree => tree.write temporary content)
  if path.isZipped then perform faults .finish (whole .ok)
  perform faults .rename (whole fun tree => tree.rename temporary path)

def discard (path : Path) : Saving Unit :=
  modify fun tree =>
    match tree.remove path with
    | .ok tree => tree
    | .error _ => tree

end Saving

namespace Lexicon

open Saving in
/-- Saves a lexicon with a compressor, on a machine with some faults. -/
def saveWith (compress : Bytes → Bytes) (faults : Faults) (lexicon : Lexicon) (path : Path) :
    Saving Unit := do
  match path.parent? with
  | some parent =>
    if parent.text ≠ [] then
      perform faults .createDirectory fun tree => tree.createDirectories parent
  | none => pure ()
  let temporary := path.withExtension "sltmp".toList
  try writeAndRename faults temporary path (lexicon.fileContent compress path.isZipped)
  catch error =>
    discard temporary
    throw error

/-- Saves a lexicon in a tree, in a stored file if it is to be compressed. -/
def save (lexicon : Lexicon) (tree : FileTree) (path : Path) : Except SaveError Unit × FileTree :=
  (lexicon.saveWith Gzip.store Saving.noFaults path).run tree

end Lexicon
end Polyquery
