import Polyquery.Text

/-!
# JSON values and their written forms

The values the library writes, and the two ways of writing them: compact, without any white space, and
indented, with one entry to a line.  Only characters that JSON requires to be escaped are.
-/

namespace Polyquery

/-- A JSON value.  Numbers are the natural ones, the only numbers that are written. -/
inductive Json where
  | null
  | number (n : Nat)
  | string (text : Text)
  | array (items : List Json)
  | object (members : List (Text × Json))
  deriving Repr

namespace Json

def fourDigits (n : Nat) : Text :=
  [Nat.digitChar (n / 4096 % 16), Nat.digitChar (n / 256 % 16), Nat.digitChar (n / 16 % 16),
    Nat.digitChar (n % 16)]

def escapeChar (c : Char) : Text :=
  if c = '"' then ['\\', '"']
  else if c = '\\' then ['\\', '\\']
  else if c.toNat = 8 then ['\\', 'b']
  else if c.toNat = 9 then ['\\', 't']
  else if c.toNat = 10 then ['\\', 'n']
  else if c.toNat = 12 then ['\\', 'f']
  else if c.toNat = 13 then ['\\', 'r']
  else if c.toNat < 32 then '\\' :: 'u' :: fourDigits c.toNat
  else [c]

def quote (text : Text) : Text :=
  '"' :: (text.flatMap escapeChar ++ ['"'])

mutual

def compact : Json → Text
  | .null => "null".toList
  | .number n => Text.decimal n
  | .string text => quote text
  | .array items => '[' :: (compactItems items ++ [']'])
  | .object members => '\x7b' :: (compactMembers members ++ ['\x7d'])

def compactItems : List Json → Text
  | [] => []
  | [item] => item.compact
  | item :: rest => item.compact ++ ',' :: compactItems rest

def compactMembers : List (Text × Json) → Text
  | [] => []
  | [(key, value)] => quote key ++ ':' :: value.compact
  | (key, value) :: rest => quote key ++ ':' :: (value.compact ++ ',' :: compactMembers rest)

end

def lineBreak (level : Nat) : Text :=
  '\n' :: List.replicate (2 * level) ' '

mutual

/-- The value with one entry to a line, inside `level` brackets. -/
def indented (level : Nat) : Json → Text
  | .null => "null".toList
  | .number n => Text.decimal n
  | .string text => quote text
  | .array [] => ['[', ']']
  | .array (item :: rest) =>
    '[' :: (lineBreak (level + 1) ++ item.indented (level + 1) ++ indentedItems (level + 1) rest ++
      lineBreak level ++ [']'])
  | .object [] => ['\x7b', '\x7d']
  | .object ((key, value) :: rest) =>
    '\x7b' :: (lineBreak (level + 1) ++ quote key ++ ':' :: ' ' :: value.indented (level + 1) ++
      indentedMembers (level + 1) rest ++ lineBreak level ++ ['\x7d'])

def indentedItems (level : Nat) : List Json → Text
  | [] => []
  | item :: rest => ',' :: (lineBreak level ++ item.indented level ++ indentedItems level rest)

def indentedMembers (level : Nat) : List (Text × Json) → Text
  | [] => []
  | (key, value) :: rest =>
    ',' :: (lineBreak level ++ quote key ++ ':' :: ' ' :: value.indented level ++
      indentedMembers level rest)

end

def pretty (value : Json) : Text :=
  value.indented 0

end Json
end Polyquery
