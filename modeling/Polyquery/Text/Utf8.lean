import Polyquery.Text

/-!
# UTF-8

Files hold bytes.  Decoding goes from left to right and keeps apart the bytes that belong to no character,
so that a reader can say where they stand; a text is what decodes without any.
-/

namespace Polyquery

abbrev Bytes := List UInt8

namespace Text

def toUtf8 (text : Text) : Bytes :=
  text.flatMap String.utf8EncodeChar

theorem toUtf8_cons (c : Char) (text : Text) :
    toUtf8 (c :: text) = String.utf8EncodeChar c ++ toUtf8 text := by
  simp [toUtf8]

end Text

namespace Utf8

def first? (bytes : Bytes) : Option Char :=
  (bytes.take 4).toByteArray.utf8DecodeChar? 0

/-- Decodes the bytes behind a number of bytes whose character is known already.  A byte that belongs to
no character gives `none`. -/
def decodeAfter : Nat → Bytes → List (Option Char)
  | _, [] => []
  | known + 1, _ :: rest => decodeAfter known rest
  | 0, byte :: rest =>
    match first? (byte :: rest) with
    | some c => some c :: decodeAfter (c.utf8Size - 1) rest
    | none => none :: decodeAfter 0 rest

def decode (bytes : Bytes) : List (Option Char) :=
  decodeAfter 0 bytes

theorem first?_encode (c : Char) (rest : Bytes) :
    first? (String.utf8EncodeChar c ++ rest) = some c := by
  have hsize : (String.utf8EncodeChar c).length ≤ 4 := by
    simpa using Char.utf8Size_le_four c
  rw [first?, List.take_append, List.take_of_length_le hsize, List.toByteArray_append]
  exact ByteArray.utf8DecodeChar?_utf8EncodeChar_append

theorem decodeAfter_append (known rest : Bytes) :
    decodeAfter known.length (known ++ rest) = decodeAfter 0 rest := by
  induction known with
  | nil => rfl
  | cons byte known ih => simpa [decodeAfter] using ih

theorem decode_encode_append (c : Char) (rest : Bytes) :
    decode (String.utf8EncodeChar c ++ rest) = some c :: decode rest := by
  have hfirst := first?_encode c rest
  have hsize : (String.utf8EncodeChar c).length = c.utf8Size := by simp
  cases hbytes : String.utf8EncodeChar c with
  | nil =>
    rw [hbytes] at hsize
    exact absurd hsize.symm (Nat.ne_of_gt (Char.utf8Size_pos c))
  | cons byte known =>
    rw [hbytes] at hfirst hsize
    have hknown : c.utf8Size - 1 = known.length := by
      rw [← hsize]
      rfl
    simp only [decode, List.cons_append, decodeAfter]
    rw [show byte :: (known ++ rest) = byte :: known ++ rest from rfl, hfirst]
    simp only [hknown, decodeAfter_append]

/-- Every text decodes from its encoding, and nothing is left over. -/
theorem decode_toUtf8 (text : Text) : decode (Text.toUtf8 text) = text.map some := by
  induction text with
  | nil => rfl
  | cons c rest ih => rw [Text.toUtf8_cons, decode_encode_append, ih, List.map_cons]

end Utf8

namespace Text

def ofUtf8? (bytes : Bytes) : Option Text :=
  (Utf8.decode bytes).mapM id

theorem ofUtf8?_toUtf8 (text : Text) : ofUtf8? (toUtf8 text) = some text := by
  rw [ofUtf8?, Utf8.decode_toUtf8]
  induction text with
  | nil => rfl
  | cons c rest ih => simp [ih]

end Text
end Polyquery
