import Polyquery.Conflict.Rules
import Polyquery.Json.Decoder

/-!
# The written form of conflict rules

Rules are a JSON object.  An exclusive pair is a list of two terms, a category an object with a name and
its members.  A list of rules that is left out is the standard one.
-/

namespace Polyquery

open Json

namespace ExclusivePair

def toJson (pair : ExclusivePair) : Json :=
  .array [.string pair.left, .string pair.right]

def shape : Shape ExclusivePair :=
  { name := "tuple struct ExclusivePair".toList
    fields := [
      { name := "0".toList
        read := fun outline pair => do
          return { pair with left := ← outline.text "a string".toList }
        required := true },
      { name := "1".toList
        read := fun outline pair => do
          return { pair with right := ← outline.text "a string".toList }
        required := true }]
    strict := false }

def decode (outline : Outline) : Decoded ExclusivePair :=
  shape.decodeList { left := [], right := [] } outline

end ExclusivePair

namespace Category

def toJson (category : Category) : Json :=
  .object [
    ("name".toList, .string category.name),
    ("members".toList, .array (category.members.map .string))]

def shape : Shape Category :=
  { name := "struct Category".toList
    fields := [
      { name := "name".toList
        read := fun outline category => do
          return { category with name := ← outline.text "a string".toList }
        required := true },
      { name := "members".toList
        read := fun outline category => do
          return { category with members := ← outline.list (Outline.text "a string".toList) }
        required := true }]
    strict := false }

def decode (outline : Outline) : Decoded Category :=
  shape.decode { name := [], members := [] } outline

end Category

namespace ConflictRules

def toJson (rules : ConflictRules) : Json :=
  .object [
    ("exclusive".toList, .array (rules.exclusive.map ExclusivePair.toJson)),
    ("categories".toList, .array (rules.categories.map Category.toJson))]

def shape : Shape ConflictRules :=
  { name := "struct ConflictRules".toList
    fields := [
      { name := "exclusive".toList
        read := fun outline rules => do
          return { rules with exclusive := ← outline.list ExclusivePair.decode }
        required := false },
      { name := "categories".toList
        read := fun outline rules => do
          return { rules with categories := ← outline.list Category.decode }
        required := false }]
    strict := false }

def decode (outline : Outline) : Decoded ConflictRules :=
  shape.decode standard outline

def write (rules : ConflictRules) : Text :=
  rules.toJson.compact

def read (text : Text) : Decoded ConflictRules :=
  decodeText decode text

end ConflictRules
end Polyquery
