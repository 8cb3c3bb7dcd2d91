import Polyquery.Proofs.Json.Scalars

/-!
# The marks of a written value

Both ways of writing a value give the same marks to one who reads it: white space between marks does not
count.
-/

namespace Polyquery

open Text

namespace Json

mutual

def marks : Json → List Mark
  | .null => [.scalar .null]
  | .number n => [.scalar (.number (.ofNat n))]
  | .string text => [.scalar (.string (.ok text))]
  | .array items => .openList :: (itemMarks items ++ [.closeList])
  | .object members => .openObject :: (memberMarks members ++ [.closeObject])

def itemMarks : List Json → List Mark
  | [] => []
  | item :: rest => item.marks ++ moreItemMarks rest

def moreItemMarks : List Json → List Mark
  | [] => []
  | item :: rest => .comma :: (item.marks ++ moreItemMarks rest)

def memberMarks : List (Text × Json) → List Mark
  | [] => []
  | (key, value) :: rest =>
    .scalar (.string (.ok key)) :: .colon :: (value.marks ++ moreMemberMarks rest)

def moreMemberMarks : List (Text × Json) → List Mark
  | [] => []
  | (key, value) :: rest =>
    .comma :: .scalar (.string (.ok key)) :: .colon :: (value.marks ++ moreMemberMarks rest)

end

namespace Mark

open Symbol Numeral

/-!
# Single marks
-/

section

variable {c : Char} {rest behind : List Symbol} {mark : Mark}

theorem list_of_gap (h : isGap c = true) : list (.char c :: rest) = list rest := by
  rw [list, if_pos h]

theorem list_of_beginning (hgap : isGap c = false) (h : beginning c rest = (mark, behind)) :
    list (.char c :: rest) = mark :: list behind := by
  rw [list]
  simp only [hgap, h, Bool.false_eq_true, if_false]

@[simp] theorem list_openList : list (.char '[' :: rest) = .openList :: list rest :=
  list_of_beginning rfl rfl

@[simp] theorem list_closeList : list (.char ']' :: rest) = .closeList :: list rest :=
  list_of_beginning rfl rfl

@[simp] theorem list_openObject : list (.char '\x7b' :: rest) = .openObject :: list rest :=
  list_of_beginning rfl rfl

@[simp] theorem list_closeObject : list (.char '\x7d' :: rest) = .closeObject :: list rest :=
  list_of_beginning rfl rfl

@[simp] theorem list_comma : list (.char ',' :: rest) = .comma :: list rest :=
  list_of_beginning rfl rfl

@[simp] theorem list_colon : list (.char ':' :: rest) = .colon :: list rest :=
  list_of_beginning rfl rfl

@[simp] theorem list_space : list (.char ' ' :: rest) = list rest :=
  list_of_gap rfl

end

variable {behind : Text}

theorem list_null : list (ofText ("null".toList ++ behind)) =
    .scalar .null :: list (ofText behind) :=
  list_of_beginning rfl rfl

theorem list_quote (text behind : Text) :
    list (ofText (quote text ++ behind)) = .scalar (.string (.ok text)) :: list (ofText behind) := by
  rw [quote, List.cons_append, List.append_assoc]
  exact list_of_beginning rfl (beginning_quote text behind)

theorem list_decimal (n : Nat) (h : StartsOutside isNumeralChar behind) :
    list (ofText (decimal n ++ behind)) = .scalar (.number (.ofNat n)) :: list (ofText behind) := by
  have hnumber := @number_decimal n behind h
  cases hdecimal : decimal n with
  | nil => exact absurd hdecimal (decimal_ne_nil n)
  | cons c rest =>
      have hdigit : c.isDigit = true := isDigit_of_mem_decimal (n := n) (by simp [hdecimal])
      have hgap : isGap c = false := by
        rw [Bool.eq_false_iff]
        intro hgap
        simp only [isGap, Bool.or_eq_true, beq_iff_eq] at hgap
        rcases hgap with ((rfl | rfl) | rfl) | rfl <;> exact absurd hdigit (by decide)
      rw [hdecimal, List.cons_append, ofText_cons] at hnumber
      rw [List.cons_append, ofText_cons]
      exact list_of_beginning hgap (by rw [beginning_digit hdigit, hnumber])

theorem list_lineBreak (level : Nat) (behind : Text) :
    list (ofText (lineBreak level ++ behind)) = list (ofText behind) := by
  have hblanks : ∀ size, list (ofText (List.replicate size ' ' ++ behind)) =
      list (ofText behind) := by
    intro size
    induction size with
    | zero => rfl
    | succ size ih => rw [List.replicate_succ, List.cons_append, ofText_cons, list_space, ih]
  rw [lineBreak, List.cons_append, ofText_cons, list_of_gap rfl, hblanks]

/-!
# Whole values

A value is followed by a bracket, a comma, a line break or the end of the text, none of which goes on with a
number.
-/

mutual

theorem list_compact : ∀ (value : Json) (behind : Text), StartsOutside isNumeralChar behind →
    list (ofText (value.compact ++ behind)) = value.marks ++ list (ofText behind)
  | .null, behind, _ => list_null
  | .number n, behind, h => list_decimal n h
  | .string text, behind, _ => list_quote text behind
  | .array items, behind, _ => by
      have hitems := list_compactItems items (']' :: behind) (startsOutside_cons.mpr rfl)
      simp [compact, marks, hitems]
  | .object members, behind, _ => by
      have hmembers := list_compactMembers members ('\x7d' :: behind) (startsOutside_cons.mpr rfl)
      simp [compact, marks, hmembers]

theorem list_compactItems : ∀ (items : List Json) (behind : Text),
    StartsOutside isNumeralChar behind →
    list (ofText (compactItems items ++ behind)) = itemMarks items ++ list (ofText behind)
  | [], behind, _ => rfl
  | [item], behind, h => by
      rw [compactItems, itemMarks, moreItemMarks, List.append_nil]
      exact list_compact item behind h
  | item :: next :: rest, behind, h => by
      have hitem := list_compact item (',' :: (compactItems (next :: rest) ++ behind))
        (startsOutside_cons.mpr rfl)
      have hrest := list_compactItems (next :: rest) behind h
      rw [itemMarks] at hrest
      simp [compactItems, itemMarks, moreItemMarks, hitem, hrest]

theorem list_compactMembers : ∀ (members : List (Text × Json)) (behind : Text),
    StartsOutside isNumeralChar behind →
    list (ofText (compactMembers members ++ behind)) = memberMarks members ++ list (ofText behind)
  | [], behind, _ => rfl
  | [(key, value)], behind, h => by
      have hvalue := list_compact value behind h
      simp [compactMembers, memberMarks, moreMemberMarks, list_quote, hvalue]
  | (key, value) :: next :: rest, behind, h => by
      have hvalue := list_compact value (',' :: (compactMembers (next :: rest) ++ behind))
        (startsOutside_cons.mpr rfl)
      have hrest := list_compactMembers (next :: rest) behind h
      rw [memberMarks] at hrest
      simp [compactMembers, memberMarks, moreMemberMarks, list_quote, hvalue, hrest]

end

theorem startsOutside_lineBreak (level : Nat) (behind : Text) :
    StartsOutside isNumeralChar (lineBreak level ++ behind) :=
  startsOutside_cons.mpr rfl

theorem startsOutside_indentedItems (level : Nat) (items : List Json)
    (h : StartsOutside isNumeralChar behind) :
    StartsOutside isNumeralChar (indentedItems level items ++ behind) := by
  cases items with
  | nil => exact h
  | cons item rest =>
      rw [indentedItems]
      exact startsOutside_cons.mpr rfl

theorem startsOutside_indentedMembers (level : Nat) (members : List (Text × Json))
    (h : StartsOutside isNumeralChar behind) :
    StartsOutside isNumeralChar (indentedMembers level members ++ behind) := by
  cases members with
  | nil => exact h
  | cons member rest =>
      rw [indentedMembers]
      exact startsOutside_cons.mpr rfl

mutual

theorem list_indented : ∀ (value : Json) (level : Nat) (behind : Text),
    StartsOutside isNumeralChar behind →
    list (ofText (value.indented level ++ behind)) = value.marks ++ list (ofText behind)
  | .null, _, behind, _ => list_null
  | .number n, _, behind, h => list_decimal n h
  | .string text, _, behind, _ => list_quote text behind
  | .array [], _, behind, _ => by
      simp [indented, marks, itemMarks]
  | .array (item :: rest), level, behind, _ => by
      have hclose := startsOutside_lineBreak level (']' :: behind)
      have hitem := list_indented item (level + 1)
        (indentedItems (level + 1) rest ++ (lineBreak level ++ ']' :: behind))
        (startsOutside_indentedItems (level + 1) rest hclose)
      have hrest := list_indentedItems rest (level + 1) (lineBreak level ++ ']' :: behind) hclose
      simp [indented, marks, itemMarks, list_lineBreak, hitem, hrest]
  | .object [], _, behind, _ => by
      simp [indented, marks, memberMarks]
  | .object ((key, value) :: rest), level, behind, _ => by
      have hclose := startsOutside_lineBreak level ('\x7d' :: behind)
      have hvalue := list_indented value (level + 1)
        (indentedMembers (level + 1) rest ++ (lineBreak level ++ '\x7d' :: behind))
        (startsOutside_indentedMembers (level + 1) rest hclose)
      have hrest :=
        list_indentedMembers rest (level + 1) (lineBreak level ++ '\x7d' :: behind) hclose
      simp [indented, marks, memberMarks, list_lineBreak, list_quote, hvalue, hrest]

theorem list_indentedItems : ∀ (items : List Json) (level : Nat) (behind : Text),
    StartsOutside isNumeralChar behind →
    list (ofText (indentedItems level items ++ behind)) = moreItemMarks items ++ list (ofText behind)
  | [], _, behind, _ => rfl
  | item :: rest, level, behind, h => by
      have hitem := list_indented item level (indentedItems level rest ++ behind)
        (startsOutside_indentedItems level rest h)
      have hrest := list_indentedItems rest level behind h
      simp [indentedItems, moreItemMarks, list_lineBreak, hitem, hrest]

theorem list_indentedMembers : ∀ (members : List (Text × Json)) (level : Nat) (behind : Text),
    StartsOutside isNumeralChar behind →
    list (ofText (indentedMembers level members ++ behind)) =
      moreMemberMarks members ++ list (ofText behind)
  | [], _, behind, _ => rfl
  | (key, value) :: rest, level, behind, h => by
      have hvalue := list_indented value level (indentedMembers level rest ++ behind)
        (startsOutside_indentedMembers level rest h)
      have hrest := list_indentedMembers rest level behind h
      simp [indentedMembers, moreMemberMarks, list_lineBreak, list_quote, hvalue, hrest]

end

theorem list_compact_self (value : Json) :
    list (ofText value.compact) = value.marks ++ [.ended .finished] := by
  have hvalue := list_compact value [] avoids_nil.startsOutside
  rw [List.append_nil] at hvalue
  rw [hvalue, ofText_nil, list]

theorem list_pretty (value : Json) :
    list (ofText value.pretty) = value.marks ++ [.ended .finished] := by
  have hvalue := list_indented value 0 [] avoids_nil.startsOutside
  rw [List.append_nil] at hvalue
  rw [pretty, hvalue, ofText_nil, list]

end Mark
end Json
end Polyquery
