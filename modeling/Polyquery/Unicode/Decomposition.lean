import Polyquery.Text
import Polyquery.Unicode.CombiningClass
import Polyquery.Unicode.Decomposition.Table

/-!
# Canonical decomposition

The canonical decomposition of a text takes every character apart into its base letter and marks, then
puts the marks after each letter into the order of their combining classes.  Two spellings of the same
accented letter have one decomposition.
-/

namespace Polyquery
namespace Unicode
namespace Decomposition

/-- The number of Hangul syllables, which fill the code points from `0xAC00` on. -/
def syllableCount : Nat := 11172

/-- The letters of the Hangul syllable with the given index: an initial consonant, a vowel and, unless
the index is a multiple of 28, a final consonant. -/
def syllableLetters (index : Nat) : Text :=
  let opening := Char.ofNat (0x1100 + index / 588)
  let vowel := Char.ofNat (0x1161 + index % 588 / 28)
  if index % 28 = 0 then [opening, vowel]
  else [opening, vowel, Char.ofNat (0x11A7 + index % 28)]

def listed? (code : Nat) : Option (List Nat) :=
  match runTree.find? Run.interval code with
  | some run => run.parts[code - run.first]?
  | none => none

def ofChar (c : Char) : Text :=
  if 0xAC00 ≤ c.toNat ∧ c.toNat < 0xAC00 + syllableCount then syllableLetters (c.toNat - 0xAC00)
  else
    match listed? c.toNat with
    | some parts => parts.map Char.ofNat
    | none => [c]

/-- Moves `c` behind the marks that follow it and have a smaller non-zero class. -/
def settle (c : Char) : Text → Text
  | [] => [c]
  | d :: rest =>
    if 0 < combiningClass d ∧ combiningClass d < combiningClass c then d :: settle c rest
    else c :: d :: rest

/-- Marks in the order of their classes, those of one class in the order given. -/
def ordered (text : Text) : Text :=
  text.foldr settle []

end Decomposition
end Unicode

def Text.decomposed (text : Text) : Text :=
  Unicode.Decomposition.ordered (text.flatMap Unicode.Decomposition.ofChar)

end Polyquery
