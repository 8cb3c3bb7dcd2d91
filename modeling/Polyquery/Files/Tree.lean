import Polyquery.Files.Path
import Polyquery.Files.Stream

/-!
# File trees

A file tree is what the operating system keeps: files and directories under the names that lead to them.
It is seen from a working directory, which always exists, as do the directories above it and the root.
Each operation gives the tree as it is afterwards, or the fault for which the tree stays as it is.
There are no links in it, neither symbolic nor hard ones: what is at a place is at no other place, and nothing
leads elsewhere than its names say.
-/

namespace Polyquery

inductive FileEntry where
  | file (content : Bytes)
  | directory
  deriving Repr, DecidableEq

inductive Origin where
  | root
  /-- So many levels above the working directory. -/
  | above (levels : Nat)
  deriving Repr, DecidableEq

structure Place where
  origin : Origin
  /-- The names that lead from the origin to the place, the last one first. -/
  names : List Text
  deriving Repr, DecidableEq

namespace Place

def workingDirectory : Place :=
  { origin := .above 0, names := [] }

def child (place : Place) (name : Text) : Place :=
  { place with names := name :: place.names }

/-- The directory that a place is in.  The root is in itself. -/
def parent (place : Place) : Place :=
  match place.names, place.origin with
  | _ :: names, _ => { place with names }
  | [], .above levels => { origin := .above (levels + 1), names := [] }
  | [], .root => place

end Place

/-- The files and directories, without links. -/
structure FileTree where
  /-- The entries.  Of two entries at one place the first counts. -/
  entries : List (Place × FileEntry)
  deriving Repr, DecidableEq

namespace FileTree

def empty : FileTree :=
  { entries := [] }

def entry? (tree : FileTree) (place : Place) : Option FileEntry :=
  if place.names = [] then some .directory else tree.entries.lookup place

def put (tree : FileTree) (place : Place) (entry : FileEntry) : FileTree :=
  { entries := (place, entry) :: tree.entries }

def erase (tree : FileTree) (place : Place) : FileTree :=
  { entries := tree.entries.filter fun entry => entry.1 ≠ place }

def maxNameSize : Nat := 255

def maxPathSize : Nat := 4095

def step (tree : FileTree) (place : Place) (part : Text) : Except FileFault Place :=
  match tree.entry? place with
  | none => .error .noEntry
  | some (.file _) => .error .notDirectory
  | some .directory =>
    if part = ".".toList then .ok place
    else if part = "..".toList then .ok place.parent
    else if maxNameSize < Text.byteSize part then .error .nameTooLong
    else
      let next := place.child part
      if (tree.entry? next).isSome then .ok next else .error .noEntry

def start (path : Path) : Except FileFault Place :=
  if '\x00' ∈ path.text then .error .nullInPath
  else if path.text = [] then .error .noEntry
  else if maxPathSize < Text.byteSize path.text then .error .nameTooLong
  else if path.isRelative then .ok .workingDirectory
  else .ok { origin := .root, names := [] }

/-- A path that ends with a slash names a directory. -/
def namesDirectory (path : Path) : Bool :=
  path.text.getLast? = some '/'

def find (tree : FileTree) (path : Path) : Except FileFault (Place × FileEntry) := do
  let place ← path.parts.foldlM tree.step (← start path)
  match tree.entry? place with
  | none => .error .noEntry
  | some (.file content) =>
    if namesDirectory path then .error .notDirectory else .ok (place, .file content)
  | some .directory => .ok (place, .directory)

/-- The directory that is to hold the last part of a path, and that part.  Dots and the root are in no
directory. -/
def holder (tree : FileTree) (path : Path) : Except FileFault (Place × Option Text) := do
  let place ← start path
  match path.parts.reverse with
  | [] => .ok (place, none)
  | last :: before =>
    let place ← before.reverse.foldlM tree.step place
    match tree.entry? place with
    | none => .error .noEntry
    | some (.file _) => .error .notDirectory
    | some .directory =>
      if last = ".".toList ∨ last = "..".toList then .ok (place, none)
      else if maxNameSize < Text.byteSize last then .error .nameTooLong
      else .ok (place, some last)

def isFound (tree : FileTree) (path : Path) : Bool :=
  match tree.find path with
  | .ok _ => true
  | .error _ => false

def isDirectory (tree : FileTree) (path : Path) : Bool :=
  match tree.find path with
  | .ok (_, .directory) => true
  | _ => false

def openFile (tree : FileTree) (path : Path) : Except FileFault ByteStream := do
  match ← tree.find path with
  | (_, .file content) => .ok (.ofBytes content)
  | (_, .directory) => .ok .ofDirectory

def writePlace (tree : FileTree) (path : Path) : Except FileFault Place := do
  let (directory, name?) ← tree.holder path
  match name? with
  | none => .error .isDirectory
  | some name =>
    if namesDirectory path then .error .isDirectory
    else
      let place := directory.child name
      if tree.entry? place = some .directory then .error .isDirectory else .ok place

def write (tree : FileTree) (path : Path) (content : Bytes) : Except FileFault FileTree := do
  return tree.put (← tree.writePlace path) (.file content)

def createDirectory (tree : FileTree) (path : Path) : Except FileFault FileTree := do
  let (directory, name?) ← tree.holder path
  match name? with
  | none => .error .exists
  | some name =>
    let place := directory.child name
    if (tree.entry? place).isSome then .error .exists else .ok (tree.put place .directory)

def ensureDirectory (tree : FileTree) (path : Path) : Except FileFault FileTree :=
  match tree.createDirectory path with
  | .ok tree => .ok tree
  | .error fault => if tree.isDirectory path then .ok tree else .error fault

/-- Creates a directory and those above it, with a bound on their number.  What was created stays when a
later step fails. -/
def createDirectoriesWithin (tree : FileTree) (path : Path) :
    Nat → Except FileFault Unit × FileTree
  | 0 => (.error .wholeTree, tree)
  | bound + 1 =>
    if path.text = [] then (.ok (), tree)
    else
      match tree.ensureDirectory path with
      | .ok tree => (.ok (), tree)
      | .error .noEntry =>
        match path.parent? with
        | none => (.error .wholeTree, tree)
        | some parent =>
          match createDirectoriesWithin tree parent bound with
          | (.error fault, tree) => (.error fault, tree)
          | (.ok (), tree) =>
            match tree.ensureDirectory path with
            | .ok tree => (.ok (), tree)
            | .error fault => (.error fault, tree)
      | .error fault => (.error fault, tree)

def createDirectories (tree : FileTree) (path : Path) : Except FileFault Unit × FileTree :=
  tree.createDirectoriesWithin path (path.text.length + 1)

def rename (tree : FileTree) (source target : Path) : Except FileFault FileTree := do
  let (sourceDirectory, sourceName?) ← tree.holder source
  let (targetDirectory, targetName?) ← tree.holder target
  match sourceName?, targetName? with
  | some sourceName, some targetName =>
    let sourcePlace := sourceDirectory.child sourceName
    let targetPlace := targetDirectory.child targetName
    match tree.entry? sourcePlace with
    | none => .error .noEntry
    | some .directory => .error .isDirectory
    | some (.file content) =>
      if namesDirectory source || namesDirectory target then .error .notDirectory
      else if sourcePlace = targetPlace then .ok tree
      else if tree.entry? targetPlace = some .directory then .error .isDirectory
      else .ok ((tree.erase sourcePlace).put targetPlace (.file content))
  | _, _ => .error .busy

def remove (tree : FileTree) (path : Path) : Except FileFault FileTree := do
  match ← tree.find path with
  | (place, .file _) => .ok (tree.erase place)
  | (_, .directory) => .error .isDirectory

end FileTree
end Polyquery
