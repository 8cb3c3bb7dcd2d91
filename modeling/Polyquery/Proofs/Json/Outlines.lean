import Polyquery.Json.Outline
import Polyquery.Proofs.Json.Marks

/-!
# The outline of a written value

A written value is read as the outline that has the shape of the value and no fault, with nothing left over.
-/

namespace Polyquery
namespace Json

mutual

def outline : Json → Outline
  | .null => .scalar .null
  | .number n => .scalar (.number (.ofNat n))
  | .string text => .scalar (.string (.ok text))
  | .array items => .array (outlines items) .closed
  | .object members => .object (memberOutlines members) .closed

def outlines : List Json → List Outline
  | [] => []
  | item :: rest => item.outline :: outlines rest

def memberOutlines : List (Text × Json) → List (Except Fault Text × Outline)
  | [] => []
  | (key, value) :: rest => (.ok key, value.outline) :: memberOutlines rest

end

theorem outlines_eq_map (items : List Json) : outlines items = items.map outline := by
  induction items with
  | nil => rfl
  | cons item rest ih => rw [outlines, ih, List.map_cons]

theorem memberOutlines_eq_map (members : List (Text × Json)) :
    memberOutlines members = members.map fun member => (.ok member.1, member.2.outline) := by
  induction members with
  | nil => rfl
  | cons member rest ih => rw [memberOutlines, ih, List.map_cons]

namespace Outline

/-!
# One step of the reader
-/

inductive BeginsValue : List Mark → Prop where
  | scalar (value : Scalar) (rest : List Mark) : BeginsValue (.scalar value :: rest)
  | list (rest : List Mark) : BeginsValue (.openList :: rest)
  | object (rest : List Mark) : BeginsValue (.openObject :: rest)

theorem beginsValue_marks (value : Json) (behind : List Mark) :
    BeginsValue (value.marks ++ behind) := by
  cases value with
  | null => exact .scalar _ _
  | number n => exact .scalar _ _
  | string text => exact .scalar _ _
  | array items => exact .list _
  | object members => exact .object _

variable {bound : Nat} {marks next behind : List Mark} {stop : Stop}

section Lists

variable {item : Outline} {items : List Outline}

theorem ofMarks_openList (hbegins : BeginsValue marks)
    (h : itemsOfMarks bound marks = (items, stop, behind)) :
    ofMarks (bound + 1) (.openList :: marks) = (.array items stop, behind) := by
  cases hbegins with
  | scalar value rest => simp only [ofMarks, h]
  | list rest => simp only [ofMarks, h]
  | object rest => simp only [ofMarks, h]

theorem itemsOfMarks_last (h : ofMarks bound marks = (item, .closeList :: behind)) :
    itemsOfMarks (bound + 1) marks = ([item], .closed, behind) := by
  rw [itemsOfMarks, h]

theorem itemsOfMarks_comma (h : ofMarks bound marks = (item, .comma :: next))
    (hbegins : BeginsValue next) (hnext : itemsOfMarks bound next = (items, stop, behind)) :
    itemsOfMarks (bound + 1) marks = (item :: items, stop, behind) := by
  rw [itemsOfMarks, h]
  cases hbegins with
  | scalar value rest => simp only [hnext]
  | list rest => simp only [hnext]
  | object rest => simp only [hnext]

end Lists

section Objects

variable {key next : Except Fault Text} {value : Outline}
  {members : List (Except Fault Text × Outline)}

theorem ofMarks_openObject {rest : List Mark}
    (h : membersOfMarks bound (.scalar (.string key) :: rest) = (members, stop, behind)) :
    ofMarks (bound + 1) (.openObject :: .scalar (.string key) :: rest) =
      (.object members stop, behind) := by
  rw [ofMarks]
  simp only [h]

theorem membersOfMarks_last (h : ofMarks bound marks = (value, .closeObject :: behind)) :
    membersOfMarks (bound + 1) (.scalar (.string key) :: .colon :: marks) =
      ([(key, value)], .closed, behind) := by
  rw [membersOfMarks, h]

theorem membersOfMarks_comma {rest : List Mark}
    (h : ofMarks bound marks = (value, .comma :: .scalar (.string next) :: rest))
    (hnext : membersOfMarks bound (.scalar (.string next) :: rest) = (members, stop, behind)) :
    membersOfMarks (bound + 1) (.scalar (.string key) :: .colon :: marks) =
      ((key, value) :: members, stop, behind) := by
  rw [membersOfMarks, h]
  simp only [hnext]

end Objects

/-!
# Whole values

A list or an object takes one step for itself and one for each of its entries, and every step has a mark of
its own, so the number of marks bounds the steps.
-/

mutual

theorem ofMarks_marks : ∀ (value : Json) (bound : Nat) (behind : List Mark),
    value.marks.length ≤ bound →
    ofMarks bound (value.marks ++ behind) = (value.outline, behind)
  | .null, bound + 1, behind, _ => rfl
  | .number n, bound + 1, behind, _ => rfl
  | .string text, bound + 1, behind, _ => rfl
  | .array [], bound + 1, behind, _ => rfl
  | .array (item :: rest), bound + 1, behind, h => by
      simp only [Json.marks, itemMarks, List.length_cons, List.length_append] at h
      have hitems := itemsOfMarks_marks item rest bound behind (by omega)
      have hbegins := beginsValue_marks item (moreItemMarks rest ++ .closeList :: behind)
      simpa [Json.marks, itemMarks, outline] using ofMarks_openList hbegins hitems
  | .object [], bound + 1, behind, _ => rfl
  | .object ((key, value) :: rest), bound + 1, behind, h => by
      simp only [Json.marks, memberMarks, List.length_cons, List.length_append] at h
      have hmembers := membersOfMarks_marks key value rest bound behind (by omega)
      simpa [Json.marks, memberMarks, outline] using ofMarks_openObject hmembers

theorem itemsOfMarks_marks : ∀ (item : Json) (rest : List Json) (bound : Nat) (behind : List Mark),
    item.marks.length + (moreItemMarks rest).length + 1 ≤ bound →
    itemsOfMarks bound (item.marks ++ (moreItemMarks rest ++ .closeList :: behind)) =
      (outlines (item :: rest), .closed, behind)
  | item, [], bound + 1, behind, h => by
      exact itemsOfMarks_last (ofMarks_marks item bound _ (by omega))
  | item, next :: rest, bound + 1, behind, h => by
      simp only [moreItemMarks, List.length_cons, List.length_append] at h
      have hitem := ofMarks_marks item bound
        (.comma :: (next.marks ++ (moreItemMarks rest ++ .closeList :: behind))) (by omega)
      have hrest := itemsOfMarks_marks next rest bound behind (by omega)
      simpa [moreItemMarks, outlines] using itemsOfMarks_comma hitem (beginsValue_marks next _) hrest

theorem membersOfMarks_marks : ∀ (key : Text) (value : Json) (rest : List (Text × Json))
    (bound : Nat) (behind : List Mark),
    value.marks.length + (moreMemberMarks rest).length + 1 ≤ bound →
    membersOfMarks bound (.scalar (.string (.ok key)) :: .colon ::
        (value.marks ++ (moreMemberMarks rest ++ .closeObject :: behind))) =
      (memberOutlines ((key, value) :: rest), .closed, behind)
  | key, value, [], bound + 1, behind, h => by
      exact membersOfMarks_last (ofMarks_marks value bound _ (by omega))
  | key, value, (next, nextValue) :: rest, bound + 1, behind, h => by
      simp only [moreMemberMarks, List.length_cons, List.length_append] at h
      have hvalue := ofMarks_marks value bound
        (.comma :: .scalar (.string (.ok next)) :: .colon ::
          (nextValue.marks ++ (moreMemberMarks rest ++ .closeObject :: behind))) (by omega)
      have hrest := membersOfMarks_marks next nextValue rest bound behind (by omega)
      simpa [moreMemberMarks, memberOutlines] using membersOfMarks_comma hvalue hrest

end

theorem ofSymbols_of_marks {symbols : List Symbol} {value : Json}
    (h : Mark.list symbols = value.marks ++ [.ended .finished]) :
    ofSymbols symbols = (value.outline, none) := by
  have hvalue := ofMarks_marks value (2 * (Mark.list symbols).length + 1) [.ended .finished] (by
    rw [h, List.length_append]
    omega)
  rw [← h] at hvalue
  rw [ofSymbols]
  simp only [hvalue]

end Outline
end Json
end Polyquery
