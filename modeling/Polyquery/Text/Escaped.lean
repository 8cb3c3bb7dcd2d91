import Polyquery.Text
import Polyquery.Unicode.Unprintable

/-!
# Escaped text

A text shown in a message about data stands in double quotes, with every character that would not show,
or would end the quotation, written as an escape.
-/

namespace Polyquery
namespace Text

def hexadecimal (n : Nat) : Text :=
  Nat.toDigits 16 n

def escapedChar (c : Char) : Text :=
  if c = '"' then "\\\"".toList
  else if c = '\\' then "\\\\".toList
  else if c = '\n' then "\\n".toList
  else if c = '\r' then "\\r".toList
  else if c = '\t' then "\\t".toList
  else if c.toNat = 0 then "\\0".toList
  else if Unicode.isUnprintable c then
    "\\u\x7b".toList ++ hexadecimal c.toNat ++ "\x7d".toList
  else [c]

def escaped (text : Text) : Text :=
  "\"".toList ++ text.flatMap escapedChar ++ "\"".toList

end Text
end Polyquery
