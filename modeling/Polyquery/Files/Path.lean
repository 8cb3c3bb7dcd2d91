import Polyquery.Text

/-!
# Paths

A path is the text a user gives.  It is a sequence of parts between slashes.  Empty parts and dots mean
nothing, except that a dot may stand at the beginning.
-/

namespace Polyquery

structure Path where
  text : Text
  deriving Repr, DecidableEq

namespace Path

def isRelative (path : Path) : Bool :=
  path.text.head? ≠ some '/'

def stretches : Text → List Text
  | [] => [[]]
  | '/' :: rest => [] :: stretches rest
  | c :: rest =>
    match stretches rest with
    | [] => [[c]]
    | stretch :: more => (c :: stretch) :: more

def parts (path : Path) : List Text :=
  (stretches path.text).filter (· ≠ [])

/-- What must be there before the first part counts: the slash of an absolute path, or the dot of a path
that begins with one. -/
def lead (path : Path) : Text :=
  match path.text with
  | '/' :: _ => ['/']
  | ['.'] => ['.']
  | '.' :: '/' :: _ => ['.']
  | _ => []

def trimReversed : Text → Text
  | '/' :: rest => trimReversed rest
  | ['.'] => []
  | '.' :: '/' :: rest => trimReversed rest
  | text => text

/-- The text without the trailing slashes and dots that mean nothing. -/
def trimEnd (text : Text) : Text :=
  (trimReversed text.reverse).reverse

/-- The text between the lead and the last part, and the last part, if a part follows the lead. -/
def body? (path : Path) : Option (Text × Text) :=
  let body := trimEnd (path.text.drop path.lead.length)
  let last := Text.takeTrailing (· ≠ '/') body
  if last = [] then none else some (Text.dropTrailing (· ≠ '/') body, last)

def parent? (path : Path) : Option Path :=
  match path.body? with
  | some (before, _) => some { text := path.lead ++ trimEnd before }
  | none => if path.lead = ['.'] then some { text := [] } else none

def name? (path : Path) : Option Text :=
  match path.body? with
  | some (_, last) => if last = "..".toList then none else some last
  | none => none

def splitName (name : Text) : Text × Option Text :=
  let behind := Text.takeTrailing (· ≠ '.') name
  let before := (Text.dropTrailing (· ≠ '.') name).dropLast
  if before = [] then (name, none) else (before, some behind)

def extension? (path : Path) : Option Text := do
  (splitName (← path.name?)).2

/-- The path with an extension put behind its name, in place of what follows the last dot there.  A path
without a name stays as it is. -/
def putExtension (path : Path) (extension : Text) : Path :=
  match path.body?, path.name? with
  | some (before, _), some name =>
    { text := path.lead ++ before ++ (splitName name).1 ++ ".".toList ++ extension }
  | _, _ => path

def withExtension (path : Path) (extension : Text) : Path :=
  let old := path.extension?.getD []
  let cut : Path := { text := path.text.take (path.text.length - old.length) }
  cut.putExtension extension

def join (directory path : Path) : Path :=
  if !path.isRelative then path
  else if directory.text = [] ∨ directory.text.getLast? = some '/' then
    { text := directory.text ++ path.text }
  else { text := directory.text ++ "/".toList ++ path.text }

end Path
end Polyquery
