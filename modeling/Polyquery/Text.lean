/-!
# Text

Text is a list of characters.  Queries, terms, file contents after decoding and messages are all of this
type, so that scanning them is recursion on a list.  Places in a query are counted in bytes of its UTF-8
encoding.
-/

namespace Polyquery

/-- A finite sequence of Unicode characters. -/
abbrev Text := List Char

namespace Text

def byteSize (text : Text) : Nat :=
  text.foldr (fun c size => c.utf8Size + size) 0

@[simp] theorem byteSize_nil : byteSize [] = 0 := rfl

@[simp] theorem byteSize_cons (c : Char) (text : Text) :
    byteSize (c :: text) = c.utf8Size + byteSize text := rfl

@[simp] theorem byteSize_append (left right : Text) :
    byteSize (left ++ right) = byteSize left + byteSize right := by
  induction left with
  | nil => simp
  | cons c rest ih => simp [ih, Nat.add_assoc]

def decimal (n : Nat) : Text :=
  Nat.toDigits 10 n

/-- The text between two grave accents, the quotation marks of every message. -/
def quoted (text : Text) : Text :=
  "`".toList ++ text ++ "`".toList

/-- The parts in order, with a comma and a space between neighbours. -/
def listed (parts : List Text) : Text :=
  ", ".toList.intercalate parts

/-- The text without its longest trailing run of characters that satisfy `p`. -/
def dropTrailing (p : Char → Bool) (text : Text) : Text :=
  (text.reverse.dropWhile p).reverse

/-- The longest trailing run of characters that satisfy `p`. -/
def takeTrailing (p : Char → Bool) (text : Text) : Text :=
  (text.reverse.takeWhile p).reverse

theorem dropTrailing_append_takeTrailing (p : Char → Bool) (text : Text) :
    dropTrailing p text ++ takeTrailing p text = text := by
  rw [dropTrailing, takeTrailing, ← List.reverse_append, List.takeWhile_append_dropWhile,
    List.reverse_reverse]

end Text
end Polyquery
