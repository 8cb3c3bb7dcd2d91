import Polyquery.Text
import Polyquery.Unicode.Blank

/-!
# Trimming

White space around a language code, a query term or a catalog term carries no meaning.
-/

namespace Polyquery
namespace Text

open Unicode

def trimLeft (text : Text) : Text :=
  text.dropWhile isBlank

def trimRight (text : Text) : Text :=
  dropTrailing isBlank text

def trimmed (text : Text) : Text :=
  trimRight (trimLeft text)

def isBlankText (text : Text) : Bool :=
  text.all isBlank

end Text
end Polyquery
