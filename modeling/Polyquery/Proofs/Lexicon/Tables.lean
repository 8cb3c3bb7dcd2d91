import Polyquery.Lexicon.Document

/-!
# Tables made from lists

Pins and warnings are given as lists in which a key may occur more than once.  The table made from such a list
holds, under each key, the entry that comes last in the list.
-/

namespace Polyquery

variable {α β γ : Type}

def LastOf (p : α → Prop) (entries : List α) (a : α) : Prop :=
  ∃ before after, entries = before ++ a :: after ∧ p a ∧ ∀ b ∈ after, ¬p b

namespace LastOf

variable {p q : α → Prop} {entries : List α} {a b : α}

theorem holds (h : LastOf p entries a) : p a := by
  rcases h with ⟨_, _, _, ha, _⟩
  exact ha

theorem mem (h : LastOf p entries a) : a ∈ entries := by
  rcases h with ⟨before, after, rfl, _, _⟩
  exact List.mem_append_right before List.mem_cons_self

theorem of_cons {first : α} (h : LastOf p entries a) : LastOf p (first :: entries) a := by
  rcases h with ⟨before, after, rfl, ha, hafter⟩
  exact ⟨first :: before, after, rfl, ha, hafter⟩

theorem cons_iff {first : α} :
    LastOf p (first :: entries) a ↔
      LastOf p entries a ∨ (first = a ∧ p a ∧ ∀ b ∈ entries, ¬p b) := by
  constructor
  · rintro ⟨before, after, hsplit, ha, hafter⟩
    cases before with
    | nil =>
        cases hsplit
        exact Or.inr ⟨rfl, ha, hafter⟩
    | cons c before =>
        cases hsplit
        exact Or.inl ⟨before, after, rfl, ha, hafter⟩
  · intro h
    rcases h with h | ⟨rfl, ha, hall⟩
    · exact h.of_cons
    · exact ⟨[], entries, rfl, ha, hall⟩

theorem congr (h : ∀ b, p b ↔ q b) : LastOf p entries a ↔ LastOf q entries a := by
  simp only [LastOf, h]

theorem iff_mem_of_pairwise (h : entries.Pairwise fun b c => ¬(p b ∧ p c)) :
    LastOf p entries a ↔ a ∈ entries ∧ p a := by
  constructor
  · intro hlast
    exact ⟨hlast.mem, hlast.holds⟩
  · rintro ⟨hmem, ha⟩
    rcases List.append_of_mem hmem with ⟨before, after, rfl⟩
    refine ⟨before, after, rfl, ha, ?_⟩
    intro b hb hholds
    have hafter := (List.pairwise_append.mp h).right.left
    exact (List.pairwise_cons.mp hafter).left b hb ⟨ha, hholds⟩

end LastOf

/-!
# Insertion in the order of a list
-/

section Insertion

variable [Ord β] [Std.TransOrd β] [Std.LawfulEqOrd β] {key : α → β} {value : α → γ}

theorem getElem?_foldl_insert {entries : List α} {table : Std.TreeMap β γ} {k : β} {v : γ} :
    (entries.foldl (fun table a => table.insert (key a) (value a)) table)[k]? = some v ↔
      (∃ a, LastOf (fun b => key b = k) entries a ∧ value a = v) ∨
        ((∀ a ∈ entries, key a ≠ k) ∧ table[k]? = some v) := by
  induction entries generalizing table with
  | nil => simp [LastOf]
  | cons first rest ih =>
      rw [List.foldl_cons, ih, Std.TreeMap.getElem?_insert]
      by_cases hfirst : key first = k
      · -- the first entry counts unless the key occurs again
        rw [if_pos (Std.LawfulEqOrd.compare_eq_iff_eq.mpr hfirst)]
        constructor
        · rintro (⟨a, ha, hv⟩ | ⟨hrest, hv⟩)
          · exact Or.inl ⟨a, ha.of_cons, hv⟩
          · exact Or.inl ⟨first, LastOf.cons_iff.mpr (Or.inr ⟨rfl, hfirst, hrest⟩),
              Option.some.inj hv⟩
        · rintro (⟨a, ha, hv⟩ | ⟨hnone, _⟩)
          · rcases LastOf.cons_iff.mp ha with hrest | ⟨rfl, _, hrest⟩
            · exact Or.inl ⟨a, hrest, hv⟩
            · exact Or.inr ⟨hrest, congrArg some hv⟩
          · exact absurd hfirst (hnone first List.mem_cons_self)
      · have hcompare : ¬compare (key first) k = .eq := by
          rw [Std.LawfulEqOrd.compare_eq_iff_eq]
          exact hfirst
        rw [if_neg hcompare, List.forall_mem_cons, and_iff_right hfirst]
        apply or_congr_left
        apply exists_congr
        intro a
        apply and_congr_left'
        rw [LastOf.cons_iff, or_iff_left]
        rintro ⟨rfl, ha, _⟩
        exact hfirst ha

theorem getElem?_foldl_insert_empty {entries : List α} {k : β} {v : γ} :
    (entries.foldl (fun table a => table.insert (key a) (value a)) (∅ : Std.TreeMap β γ))[k]? =
        some v ↔
      ∃ a, LastOf (fun b => key b = k) entries a ∧ value a = v := by
  simp [getElem?_foldl_insert]

end Insertion

/-!
# The tables of a document
-/

def PinRecord.key (pin : PinRecord) : PinKey :=
  { concept := pin.concept, language := pin.language }

def WarningRecord.key (warning : WarningRecord) : WarningKey :=
  .ofTerm warning.term warning.language

theorem PinRecord.key_eq_iff {pin : PinRecord} {concept : Concept} {language : Language} :
    pin.key = { concept := concept, language := language } ↔
      pin.concept = concept ∧ pin.language = language := by
  rw [key, PinKey.mk.injEq]

theorem WarningRecord.key_eq_iff {warning : WarningRecord} {term : Text} {language : Language} :
    warning.key = { term := term, language := language } ↔
      Text.upper warning.term = term ∧ warning.language = language := by
  rw [key, WarningKey.ofTerm, WarningKey.mk.injEq]

namespace CatalogDocument

def pinTable (document : CatalogDocument) : PinTable :=
  document.pins.foldl (fun table pin => table.insert pin.concept pin.language pin.type) .empty

def warningTable (document : CatalogDocument) : WarningTable :=
  document.warnings.foldl
    (fun table warning => table.insert warning.term warning.language warning.entry) .empty

variable {document : CatalogDocument}

theorem entries_pinTable :
    document.pinTable.entries =
      document.pins.foldl (fun entries pin => entries.insert pin.key pin.type) ∅ :=
  (List.foldl_hom PinTable.entries fun _ _ => rfl).symm

theorem entries_warningTable :
    document.warningTable.entries =
      document.warnings.foldl (fun entries warning => entries.insert warning.key warning.entry)
        ∅ :=
  (List.foldl_hom WarningTable.entries fun _ _ => rfl).symm

theorem getElem?_pinTable {key : PinKey} {type : SearchType} :
    document.pinTable.entries[key]? = some type ↔
      ∃ pin, LastOf (fun other => other.key = key) document.pins pin ∧ pin.type = type := by
  rw [entries_pinTable, getElem?_foldl_insert_empty]

theorem getElem?_warningTable {key : WarningKey} {entry : WarningEntry} :
    document.warningTable.entries[key]? = some entry ↔
      ∃ warning, LastOf (fun other => other.key = key) document.warnings warning ∧
        warning.entry = entry := by
  rw [entries_warningTable, getElem?_foldl_insert_empty]

theorem get?_pinTable {concept : Concept} {language : Language} {type : SearchType} :
    document.pinTable.get? concept language = some type ↔
      LastOf (fun pin => pin.concept = concept ∧ pin.language = language) document.pins
        { concept := concept, language := language, type := type } := by
  rw [← LastOf.congr fun _ => PinRecord.key_eq_iff, PinTable.get?, getElem?_pinTable]
  constructor
  · rintro ⟨pin, hpin, rfl⟩
    rcases PinRecord.key_eq_iff.mp hpin.holds with ⟨rfl, rfl⟩
    exact hpin
  · intro h
    exact ⟨_, h, rfl⟩

theorem lookup?_warningTable {term : Text} {language : Language} {type : SearchType}
    {entry : WarningEntry} :
    document.warningTable.lookup? term language type = some entry ↔
      (∃ warning, LastOf
          (fun other => Text.upper other.term = Text.upper term ∧ other.language = language)
          document.warnings warning ∧ warning.entry = entry) ∧
        entry.qualifier.admits type = true := by
  simp only [← LastOf.congr fun _ => WarningRecord.key_eq_iff]
  rw [WarningTable.lookup?, Option.filter_eq_some_iff, getElem?_warningTable]
  rfl

end CatalogDocument
end Polyquery
