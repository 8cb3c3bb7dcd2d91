import Polyquery.Unicode.Interval

/-!
# White space

The characters with the Unicode property `White_Space`.  This is the one notion of blank text in the
library: it is skipped between the terms of a query, refused by the query check, and trimmed from
language codes and catalog terms.
-/

namespace Polyquery
namespace Unicode

def blanks : List Interval := [
  ⟨0x9, 0xD⟩, ⟨0x20, 0x20⟩, ⟨0x85, 0x85⟩, ⟨0xA0, 0xA0⟩, ⟨0x1680, 0x1680⟩, ⟨0x2000, 0x200A⟩,
  ⟨0x2028, 0x2029⟩, ⟨0x202F, 0x202F⟩, ⟨0x205F, 0x205F⟩, ⟨0x3000, 0x3000⟩]

def isBlank (c : Char) : Bool :=
  covered blanks c

end Unicode
end Polyquery
