import Polyquery.Catalog.Pins
import Polyquery.Catalog.Warnings

/-!
# Lexicons

A lexicon is a catalog with the pins that guide its look-ups and the warnings about its terms.
-/

namespace Polyquery

structure Lexicon where
  catalog : Catalog
  pins : PinTable
  warnings : WarningTable

namespace Lexicon

/-- The concept that a search key names in a language when it is read as `type`: the first one with that
key whose pin, if it has one, is of that type. -/
def resolveKey? (lexicon : Lexicon) (key : Text) (language : Language) (type : SearchType) :
    Option Concept :=
  lexicon.catalog.find? language key fun concept => lexicon.pins.admits concept language type

/-- The concept that a term names, whatever its case and accents. -/
def resolve? (lexicon : Lexicon) (term : Text) (language : Language) (type : SearchType) :
    Option Concept :=
  lexicon.resolveKey? (Text.folded term) language type

end Lexicon
end Polyquery
