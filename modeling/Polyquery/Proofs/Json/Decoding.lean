import Polyquery.Json.Decoder
import Polyquery.Proofs.Json.Outlines

/-!
# Decoding what was written

How each decoder reads the outline of a written value.  A record that is written with its fields in their
order, each of them readable, is read field by field.
-/

namespace Polyquery
namespace Json

section

variable {α : Type} {decode : Outline → Decoded α} {value : Json}

theorem decodeSymbols_of_marks {symbols : List Symbol}
    (h : Mark.list symbols = value.marks ++ [.ended .finished]) :
    decodeSymbols decode symbols = decode value.outline := by
  rw [decodeSymbols, Outline.ofSymbols_of_marks h]
  exact bind_pure (decode value.outline)

theorem decodeText_compact : decodeText decode value.compact = decode value.outline :=
  decodeSymbols_of_marks (Mark.list_compact_self value)

end

/-!
# Parts of records
-/

section

variable {α β : Type}

theorem mapM_map_eq_ok {f : β → Decoded α} {g : α → β} {items : List α}
    (h : ∀ item ∈ items, f (g item) = .ok item) : (items.map g).mapM f = .ok items := by
  induction items with
  | nil => rfl
  | cons item rest ih =>
      have hitem := h item List.mem_cons_self
      have hrest := ih fun other hother => h other (List.mem_cons_of_mem item hother)
      rw [List.map_cons, List.mapM_cons, hitem, hrest]
      rfl

theorem read_eq_ok {decoded : Decoded β} {b : β} (h : decoded = .ok b) (put : β → α) :
    (do return put (← decoded) : Decoded α) = .ok (put b) := by
  rw [h]
  rfl

theorem text_string (expected text : Text) :
    (Json.string text).outline.text expected = .ok text := rfl

theorem natural_number {n : Nat} (h : n < Nat.pow 2 64) :
    (Json.number n).outline.natural = .ok n := by
  simp only [outline, Outline.natural, Numeral.quantity_ofNat h]

theorem list_array {decode : Outline → Decoded α} {toJson : α → Json} {items : List α}
    (h : ∀ item ∈ items, decode (toJson item).outline = .ok item) :
    (Json.array (items.map toJson)).outline.list decode = .ok items := by
  have hitems := @mapM_map_eq_ok _ _ decode (fun item => (toJson item).outline) items h
  rw [outline, outlines_eq_map, List.map_map]
  simp only [Outline.list, Function.comp_def, hitems]
  rfl

theorem members_object {κ : Type} {decodeKey : Text → Decoded κ} {decode : Outline → Decoded α}
    {key : κ → Text} {toJson : α → Json} {entries : List (κ × α)}
    (hkey : ∀ entry ∈ entries, decodeKey (key entry.1) = .ok entry.1)
    (hvalue : ∀ entry ∈ entries, decode (toJson entry.2).outline = .ok entry.2) :
    (Json.object (entries.map fun entry => (key entry.1, toJson entry.2))).outline.members
      decodeKey decode = .ok entries := by
  rw [outline, memberOutlines_eq_map, List.map_map]
  simp only [Outline.members, Function.comp_def]
  rw [mapM_map_eq_ok]
  · rfl
  · intro entry hentry
    simp only [Outline.content, Except.mapError, bind, Except.bind, hkey entry hentry,
      hvalue entry hentry]
    rfl

theorem oneOf_string {names : List (Text × α)} {name : Text} {value : α}
    (h : (names.find? fun entry => decide (entry.1 = name)) = some (name, value)) :
    (Json.string name).outline.oneOf names = .ok value := by
  simp only [outline, Outline.oneOf, Outline.content, Except.mapError, bind, Except.bind, h]

end

namespace Shape

/-!
# Records
-/

variable {α : Type} {shape : Shape α} {blank record last : α}

/-- The members are the given fields in order, and reading them turns the first record into the last. -/
inductive Reads : List (Field α) → List (Text × Json) → α → α → Prop where
  | nil (record : α) : Reads [] [] record record
  | cons {field : Field α} {fields : List (Field α)} {value : Json} {members : List (Text × Json)}
      {record next last : α} (head : field.read value.outline record = .ok next)
      (tail : Reads fields members next last) :
      Reads (field :: fields) ((field.name, value) :: members) record last

theorem find?_name {fields : List (Field α)} (hnames : (fields.map Field.name).Nodup)
    {field : Field α} (h : field ∈ fields) :
    (fields.find? fun other => decide (other.name = field.name)) = some field := by
  induction fields with
  | nil => cases h
  | cons first fields ih =>
      rw [List.map_cons, List.nodup_cons] at hnames
      rcases List.mem_cons.mp h with rfl | h
      · exact List.find?_cons_of_pos (decide_eq_true rfl)
      · have hne : first.name ≠ field.name := by
          intro hname
          exact hnames.left (List.mem_map.mpr ⟨field, h, hname.symm⟩)
        rw [List.find?_cons_of_neg (by simpa using hne)]
        exact ih hnames.right h

theorem readMember_field (hnames : (shape.fields.map Field.name).Nodup) {field : Field α}
    (hfield : field ∈ shape.fields) {found : List Text} (hfound : field.name ∉ found)
    {value : Json} (h : field.read value.outline record = .ok last) :
    shape.readMember (found, record) (.ok field.name, value.outline) =
      .ok (field.name :: found, last) := by
  have hnew : (found.any fun name => decide (name = field.name)) = false := by
    rw [List.any_eq_false]
    intro name hname hsame
    exact hfound (of_decide_eq_true hsame ▸ hname)
  simp only [readMember, Outline.content, Except.mapError, bind, Except.bind,
    find?_name hnames hfield, hnew, h, Bool.false_eq_true, if_false]
  rfl

theorem Reads.foldlM_readMember (hnames : (shape.fields.map Field.name).Nodup)
    {fields : List (Field α)} {members : List (Text × Json)}
    (h : Reads fields members record last) (hfields : fields ⊆ shape.fields)
    (hdistinct : (fields.map Field.name).Nodup) {found : List Text}
    (hfound : ∀ field ∈ fields, field.name ∉ found) :
    (memberOutlines members).foldlM shape.readMember (found, record) =
      .ok ((fields.map Field.name).reverse ++ found, last) := by
  induction h generalizing found with
  | nil record => rfl
  | @cons field fields value members record next last head tail ih =>
      rw [List.cons_subset] at hfields
      rw [List.map_cons, List.nodup_cons] at hdistinct
      have hstep := readMember_field hnames hfields.left (hfound field List.mem_cons_self) head
      have hrest := @ih hfields.right hdistinct.right (field.name :: found) (by
        intro other hother hmem
        rcases List.mem_cons.mp hmem with hsame | hmem
        · exact hdistinct.left (List.mem_map.mpr ⟨other, hother, hsame⟩)
        · exact hfound other (List.mem_cons_of_mem field hother) hmem)
      rw [memberOutlines, List.foldlM_cons, hstep]
      change (memberOutlines members).foldlM shape.readMember (field.name :: found, next) = _
      rw [hrest, List.map_cons, List.reverse_cons, List.append_assoc, List.singleton_append]

/-- A record written as an object with its fields in order. -/
theorem decode_object (hnames : (shape.fields.map Field.name).Nodup)
    {members : List (Text × Json)} (h : Reads shape.fields members blank record) :
    shape.decode blank (Json.object members).outline = .ok record := by
  have hread := @Reads.foldlM_readMember _ _ _ _ hnames _ _ h (List.Subset.refl shape.fields)
    hnames [] fun _ _ => List.not_mem_nil
  have hmissing : shape.fields.find? (fun field => field.required &&
      ((shape.fields.map Field.name).reverse ++ []).all fun name =>
        decide (name ≠ field.name)) = none := by
    rw [List.find?_eq_none]
    intro field hfield hnone
    have hall := (Bool.and_eq_true_iff.mp hnone).right
    rw [List.all_eq_true] at hall
    have hmem : field.name ∈ (shape.fields.map Field.name).reverse ++ [] := by
      rw [List.append_nil, List.mem_reverse]
      exact List.mem_map_of_mem hfield
    exact absurd rfl (of_decide_eq_true (hall field.name hmem))
  have hclosed : Outline.require Stop.closed.objectFault? = .ok () := rfl
  simp only [outline, decode, hread, hclosed, bind, Except.bind]
  split
  · rename_i field hfound
    cases hmissing.symm.trans hfound
  · rfl

end Shape
end Json
end Polyquery
