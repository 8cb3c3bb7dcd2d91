import Polyquery.Text

/-!
# Slices between bytes

A place in a text is counted in bytes, but a text can be cut only where a character ends.  Cutting anywhere
else, or behind the end, has no result.
-/

namespace Polyquery
namespace Text

/-- The text cut behind its first `count` bytes, if a character ends there. -/
def cutAt? : Nat → Text → Option (Text × Text)
  | 0, text => some ([], text)
  | _ + 1, [] => none
  | count + 1, c :: rest =>
    if c.utf8Size ≤ count + 1 then
      (cutAt? (count + 1 - c.utf8Size) rest).map fun parts => (c :: parts.1, parts.2)
    else none

def tailAt? (place : Nat) (text : Text) : Option Text :=
  (cutAt? place text).map Prod.snd

def slice? (first last : Nat) (text : Text) : Option Text :=
  if first ≤ last then
    (tailAt? first text).bind fun rest => (cutAt? (last - first) rest).map Prod.fst
  else none

theorem cutAt?_zero (text : Text) : cutAt? 0 text = some ([], text) := by
  cases text <;> rfl

theorem cutAt?_append (before after : Text) :
    cutAt? (byteSize before) (before ++ after) = some (before, after) := by
  induction before with
  | nil => exact cutAt?_zero after
  | cons c rest ih =>
      have hpos := c.utf8Size_pos
      obtain ⟨count, hcount⟩ : ∃ count, byteSize (c :: rest) = count + 1 := by
        rw [byteSize_cons]
        exact ⟨c.utf8Size + byteSize rest - 1, by omega⟩
      have hfits : c.utf8Size ≤ count + 1 := by
        rw [← hcount, byteSize_cons]
        omega
      have hleft : count + 1 - c.utf8Size = byteSize rest := by
        rw [← hcount, byteSize_cons]
        omega
      rw [hcount, List.cons_append, cutAt?, if_pos hfits, hleft, ih]
      rfl

theorem append_of_cutAt? {count : Nat} {text before after : Text}
    (h : cutAt? count text = some (before, after)) :
    text = before ++ after ∧ byteSize before = count := by
  induction count, text using cutAt?.induct generalizing before with
  | case1 text =>
      rw [cutAt?_zero] at h
      cases h
      exact ⟨rfl, rfl⟩
  | case2 count => cases h
  | case3 count c rest hfits ih =>
      rw [cutAt?, if_pos hfits, Option.map_eq_some_iff] at h
      rcases h with ⟨⟨near, far⟩, hcut, hparts⟩
      cases hparts
      rcases ih hcut with ⟨hrest, hsize⟩
      constructor
      · rw [hrest, List.cons_append]
      · rw [byteSize_cons, hsize]
        omega
  | case4 count c rest hfits =>
      rw [cutAt?, if_neg hfits] at h
      cases h

theorem cutAt?_eq_some_iff {count : Nat} {text before after : Text} :
    cutAt? count text = some (before, after) ↔ text = before ++ after ∧ byteSize before = count := by
  constructor
  · exact append_of_cutAt?
  · rintro ⟨rfl, rfl⟩
    exact cutAt?_append before after

theorem tailAt?_eq_some_iff {place : Nat} {text rest : Text} :
    tailAt? place text = some rest ↔ ∃ before, text = before ++ rest ∧ byteSize before = place := by
  rw [tailAt?, Option.map_eq_some_iff]
  constructor
  · rintro ⟨⟨before, after⟩, hcut, rfl⟩
    exact ⟨before, append_of_cutAt? hcut⟩
  · rintro ⟨before, h⟩
    exact ⟨(before, rest), cutAt?_eq_some_iff.mpr h, rfl⟩

-- the second byte of a letter of two bytes begins no character
example : tailAt? 1 ['İ'] = none := by decide

theorem tailAt?_append (before after : Text) :
    tailAt? (byteSize before) (before ++ after) = some after :=
  tailAt?_eq_some_iff.mpr ⟨before, rfl, rfl⟩

theorem byteSize_of_tailAt? {place : Nat} {text rest : Text} (h : tailAt? place text = some rest) :
    byteSize text = place + byteSize rest := by
  rcases tailAt?_eq_some_iff.mp h with ⟨before, rfl, rfl⟩
  exact byteSize_append before rest

theorem tailAt?_add {place : Nat} {text part rest : Text}
    (h : tailAt? place text = some (part ++ rest)) :
    tailAt? (place + byteSize part) text = some rest := by
  rcases tailAt?_eq_some_iff.mp h with ⟨before, rfl, rfl⟩
  rw [← byteSize_append, ← List.append_assoc]
  exact tailAt?_append (before ++ part) rest

theorem slice?_of_tailAt? {first : Nat} {text part rest : Text}
    (h : tailAt? first text = some (part ++ rest)) :
    slice? first (first + byteSize part) text = some part := by
  rw [slice?, if_pos (Nat.le_add_right first _), h, Nat.add_sub_cancel_left, Option.bind_some,
    cutAt?_append]
  rfl

theorem slice?_zero (before after : Text) :
    slice? 0 (byteSize before) (before ++ after) = some before := by
  have h := slice?_of_tailAt? (tailAt?_append [] (before ++ after))
  rw [byteSize_nil, Nat.zero_add] at h
  exact h

end Text
end Polyquery
