import Polyquery.Unicode.Decomposition
import Polyquery.Unicode.LowerCase

/-!
# Search keys

Two terms name the same catalog entry when they agree up to case and accents.  The key of a term is its
decomposition without the combining diacritical marks, in lower case.
-/

namespace Polyquery
namespace Text

def isDiacritic (c : Char) : Bool :=
  decide (0x300 ≤ c.toNat) && decide (c.toNat ≤ 0x36F)

def folded (text : Text) : Text :=
  lower (text.decomposed.filter fun c => !isDiacritic c)

end Text
end Polyquery
