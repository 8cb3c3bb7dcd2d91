import Polyquery.Unicode.LowerCase

/-!
# Conflict rules

Some combinations of terms can never match a creature.  A pair of exclusive states clashes wherever both
are asked for; two members of one category clash when a conjunction joins them.  Terms of a query are in
lower case, so rule texts are compared by their lower case.
-/

namespace Polyquery

structure ExclusivePair where
  left : Text
  right : Text
  deriving Repr, DecidableEq

/-- A named family of terms of which a creature has exactly one. -/
structure Category where
  name : Text
  members : List Text
  deriving Repr, DecidableEq

def Category.contains (category : Category) (term : Text) : Bool :=
  category.members.any fun member => decide (Text.lower member = term)

structure ConflictRules where
  exclusive : List ExclusivePair
  categories : List Category
  deriving Repr, DecidableEq

namespace ConflictRules

def none : ConflictRules :=
  { exclusive := [], categories := [] }

/-- The rules of the game: a shadow creature is neither purified nor lucky, and a creature has one star
rating and one gender. -/
def standard : ConflictRules :=
  { exclusive := [
      { left := "shadow".toList, right := "purified".toList },
      { left := "shadow".toList, right := "lucky".toList }]
    categories := [
      { name := "stars".toList
        members := ["0*".toList, "1*".toList, "2*".toList, "3*".toList, "4*".toList] },
      { name := "gender".toList
        members := ["male".toList, "female".toList, "genderunknown".toList] }] }

end ConflictRules
end Polyquery
