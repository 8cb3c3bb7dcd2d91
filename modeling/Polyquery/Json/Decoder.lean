import Polyquery.Json.Outline

/-!
# Decoding

A decoder turns an outline into a value of a type of the library, or says at the first place where that
fails why it fails.  Records are written as objects, or as lists of their fields in order.
-/

namespace Polyquery
namespace Json

inductive DecodeError where
  | fault (fault : Fault)
  | invalidType (found expected : Text)
  | invalidValue (found expected : Text)
  | invalidLength (length : Nat) (expected : Text)
  | missingField (name : Text)
  | duplicateField (name : Text)
  | unknownField (name : Text) (known : List Text)
  | unknownVariant (name : Text) (known : List Text)
  /-- A text that the type of the field does not admit, with the message of that type. -/
  | refused (message : Text)
  deriving Repr, DecidableEq

namespace DecodeError

def alternatives : List Text → Text
  | [] => []
  | [name] => name.quoted
  | [first, second] => first.quoted ++ " or ".toList ++ second.quoted
  | names => "one of ".toList ++ Text.listed (names.map Text.quoted)

def message : DecodeError → Text
  | .fault cause => cause.message
  | .invalidType found expected =>
    "invalid type: ".toList ++ found ++ ", expected ".toList ++ expected
  | .invalidValue found expected =>
    "invalid value: ".toList ++ found ++ ", expected ".toList ++ expected
  | .invalidLength length expected =>
    "invalid length ".toList ++ Text.decimal length ++ ", expected ".toList ++ expected
  | .missingField name => "missing field ".toList ++ name.quoted
  | .duplicateField name => "duplicate field ".toList ++ name.quoted
  | .unknownField name known =>
    "unknown field ".toList ++ name.quoted ++ ", expected ".toList ++ alternatives known
  | .unknownVariant name known =>
    "unknown variant ".toList ++ name.quoted ++ ", expected ".toList ++ alternatives known
  | .refused message => message

end DecodeError

abbrev Decoded (α : Type) := Except DecodeError α

namespace Outline

def require (fault : Option Fault) : Decoded Unit :=
  match fault with
  | none => .ok ()
  | some fault => .error (.fault fault)

def content (text : Except Fault Text) : Decoded Text :=
  text.mapError .fault

def mismatch {α : Type} (found : Except Fault Text) (expected : Text) : Decoded α :=
  match found with
  | .ok found => .error (.invalidType found expected)
  | .error fault => .error (.fault fault)

def text (expected : Text) (outline : Outline) : Decoded Text :=
  match outline with
  | .scalar (.string text) => content text
  | other => mismatch other.describe expected

/-- Decodes a natural number of 64 bits. -/
def natural (outline : Outline) : Decoded Nat :=
  match outline with
  | .scalar (.number numeral) =>
    match numeral.quantity with
    | .ok (.natural n) => .ok n
    | .ok (.negative size) =>
      .error (.invalidValue (Quantity.negative size).describe "usize".toList)
    | .ok quantity => .error (.invalidType quantity.describe "usize".toList)
    | .error fault => .error (.fault fault)
  | other => mismatch other.describe "usize".toList

def optional {α : Type} (decode : Outline → Decoded α) (outline : Outline) : Decoded (Option α) :=
  match outline with
  | .scalar .null => .ok none
  | other => (decode other).map some

def list {α : Type} (decode : Outline → Decoded α) (outline : Outline) : Decoded (List α) :=
  match outline with
  | .array items stop => do
    let values ← items.mapM decode
    require stop.listFault?
    return values
  | other => mismatch other.describe "a sequence".toList

def members {κ α : Type} (decodeKey : Text → Decoded κ) (decode : Outline → Decoded α)
    (outline : Outline) : Decoded (List (κ × α)) :=
  match outline with
  | .object members stop => do
    let entries ← members.mapM fun member => do
      let key ← decodeKey (← content member.1)
      let value ← decode member.2
      return (key, value)
    require stop.objectFault?
    return entries
  | other => mismatch other.describe "a map".toList

/-- Decodes one of several names.  A name may also stand as the only key of an object, with null. -/
def oneOf {α : Type} (names : List (Text × α)) (outline : Outline) : Decoded α :=
  let pick (name : Text) : Decoded α :=
    match names.find? fun entry => decide (entry.1 = name) with
    | some entry => .ok entry.2
    | none => .error (.unknownVariant name (names.map Prod.fst))
  match outline with
  | .scalar (.string text) => do pick (← content text)
  | .object [] (.ended ending) => .error (.fault (ending.fault .endInValue))
  | .object [] (.noFirstKey found) => mismatch found "variant identifier".toList
  | .object [] (.brokenKey read _) => .error (.fault read)
  | .object ((key, value) :: rest) stop => do
    let chosen ← pick (← content key)
    match value with
    | .scalar .null => pure ()
    | other => mismatch other.describe "unit".toList
    match rest, stop with
    | [], .closed => return chosen
    | [], .ended ending => .error (.fault (ending.fault .endInObject))
    | _, _ => .error (.fault .expectedValue)
  | .broken read _ => .error (.fault read)
  | _ => .error (.fault .expectedValue)

end Outline

structure Field (α : Type) where
  name : Text
  read : Outline → α → Decoded α
  required : Bool

structure Shape (α : Type) where
  name : Text
  fields : List (Field α)
  /-- An object with other members is refused. -/
  strict : Bool

namespace Shape

variable {α : Type}

def counted (shape : Shape α) : Text :=
  shape.name ++ " with ".toList ++ Text.decimal shape.fields.length ++
    (if shape.fields.length = 1 then " element".toList else " elements".toList)

/-- Decodes one member of an object into a record, given with the names of its fields so far. -/
def readMember (shape : Shape α) (state : List Text × α) (member : Except Fault Text × Outline) :
    Decoded (List Text × α) := do
  let key ← Outline.content member.1
  match shape.fields.find? fun field => decide (field.name = key) with
  | some field =>
    if state.1.any fun name => decide (name = key) then .error (.duplicateField key)
    else
      let record ← field.read member.2 state.2
      return (key :: state.1, record)
  | none =>
    if shape.strict then .error (.unknownField key (shape.fields.map Field.name))
    else
      Outline.require member.2.skipFault?
      return state

/-- Decodes the entries of a list as the fields in order, of which `done` have been decoded. -/
def readItems (shape : Shape α) (stop : Stop) (done : Nat) (record : α) :
    List (Field α) → List Outline → Decoded α
  | [], [] => do
    Outline.require stop.tupleFault?
    return record
  | [], _ :: _ => .error (.fault .trailingCharacters)
  | field :: fields, item :: items => do
    readItems shape stop (done + 1) (← field.read item record) fields items
  | field :: fields, [] => do
    Outline.require stop.listFault?
    if field.required then .error (.invalidLength done shape.counted)
    else readItems shape stop (done + 1) record fields []

/-- Decodes a record.  Fields that are missing but not required are as in `blank`. -/
def decode (shape : Shape α) (blank : α) (outline : Outline) : Decoded α :=
  match outline with
  | .object members stop => do
    let (found, record) ← members.foldlM shape.readMember ([], blank)
    Outline.require stop.objectFault?
    let isMissing (field : Field α) : Bool :=
      field.required && found.all fun name => decide (name ≠ field.name)
    match shape.fields.find? isMissing with
    | some field => .error (.missingField field.name)
    | none => return record
  | .array items stop => shape.readItems stop 0 blank shape.fields items
  | other => Outline.mismatch other.describe shape.name

def decodeList (shape : Shape α) (blank : α) (outline : Outline) : Decoded α :=
  match outline with
  | .array items stop => shape.readItems stop 0 blank shape.fields items
  | other => Outline.mismatch other.describe shape.name

end Shape

def decodeSymbols {α : Type} (decode : Outline → Decoded α) (symbols : List Symbol) : Decoded α := do
  let (outline, behind) := Outline.ofSymbols symbols
  let value ← decode outline
  Outline.require behind
  return value

def decodeText {α : Type} (decode : Outline → Decoded α) (text : Text) : Decoded α :=
  decodeSymbols decode (Symbol.ofText text)

end Json
end Polyquery
