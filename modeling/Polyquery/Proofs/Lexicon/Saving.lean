import Mathlib.Data.List.Sort
import Polyquery.Proofs.Lexicon.Loading
import Polyquery.Proofs.Text.UpperCase

/-!
# Saving

A lexicon is saved as a document in which every key occurs once, under the last entry that it had when the
lexicon was loaded, and in order.  Loading what was saved gives the same columns, the same pins and the same
warnings again, because terms that are in upper case keep their keys.  So nothing changes when it is saved
once more.
-/

namespace Polyquery

/-!
# Lists with increasing keys
-/

section Keys

variable {α β : Type} [Ord β] {key : α → β} {entries others : List α}

def KeysIncrease (key : α → β) (entries : List α) : Prop :=
  entries.Pairwise fun a b => compare (key a) (key b) = .lt

def sortByKey (key : α → β) (entries : List α) : List α :=
  entries.mergeSort fun a b => (compare (key a) (key b)).isLE

variable [Std.TransOrd β]

theorem key_ne_of_compare_eq_lt {a b : α} (h : compare (key a) (key b) = .lt) :
    key a ≠ key b := by
  intro hkey
  rw [hkey, Std.ReflOrd.compare_self] at h
  cases h

theorem pairwise_sortByKey :
    (sortByKey key entries).Pairwise fun a b => (compare (key a) (key b)).isLE = true := by
  apply List.pairwise_mergeSort
  · intro a b c
    exact Std.TransCmp.isLE_trans
  · intro a b
    rw [Std.OrientedOrd.eq_swap (a := key b)]
    cases compare (key a) (key b) <;> rfl

namespace KeysIncrease

theorem eq_of_key_eq {a b : α} (h : KeysIncrease key entries) (ha : a ∈ entries)
    (hb : b ∈ entries) (hkey : key a = key b) : a = b := by
  have hunique : entries.Pairwise fun a b => key a = key b → a = b := by
    refine h.imp ?_
    intro a b hlt heq
    exact absurd heq (key_ne_of_compare_eq_lt hlt)
  have hsymm : Std.Symm fun a b : α => key a = key b → a = b :=
    ⟨fun a b hab heq => (hab heq.symm).symm⟩
  exact hunique.forall_of_forall (fun _ _ _ => rfl) ha hb hkey

theorem lastOf_iff {a : α} {k : β} (h : KeysIncrease key entries) :
    LastOf (fun b => key b = k) entries a ↔ a ∈ entries ∧ key a = k := by
  refine LastOf.iff_mem_of_pairwise (h.imp ?_)
  rintro a b hlt ⟨ha, hb⟩
  exact key_ne_of_compare_eq_lt hlt (ha.trans hb.symm)

theorem eq_of_mem_iff (h : KeysIncrease key entries) (hothers : KeysIncrease key others)
    (hmem : ∀ a, a ∈ entries ↔ a ∈ others) : entries = others := by
  have hirrefl : Std.Irrefl fun a b : α => compare (key a) (key b) = .lt :=
    ⟨fun a hlt => key_ne_of_compare_eq_lt hlt rfl⟩
  have hantisymm : Std.Antisymm fun a b : α => compare (key a) (key b) = .lt := by
    refine ⟨fun a b hab hba => ?_⟩
    rw [Std.OrientedOrd.eq_swap, hba] at hab
    cases hab
  exact List.Pairwise.eq_of_mem_iff h hothers hmem

theorem sortByKey_eq [Std.LawfulEqOrd β] (h : KeysIncrease key entries)
    (hperm : others.Perm entries) : sortByKey key others = entries := by
  have hsorted : (sortByKey key others).Perm entries := (List.mergeSort_perm others _).trans hperm
  refine List.Perm.eq_of_pairwise ?_ pairwise_sortByKey (h.imp ?_) hsorted
  · intro a b ha hb hab hba
    refine h.eq_of_key_eq (hsorted.mem_iff.mp ha) hb ?_
    exact Std.LawfulEqOrd.compare_eq_iff_eq.mp (Std.OrientedCmp.isLE_antisymm hab hba)
  · intro a b hlt
    rw [hlt]
    rfl

end KeysIncrease
end Keys

/-!
# The order of records
-/

theorem Text.compare_eq_lt_iff {a b : Text} : compare a b = .lt ↔ a < b := by
  rw [List.compare_eq_compareLex]
  induction a generalizing b with
  | nil =>
      cases b with
      | nil => exact iff_of_false (by decide) (List.lt_irrefl [])
      | cons d rest => exact iff_of_true rfl (List.nil_lt_cons d rest)
  | cons c rest ih =>
      cases b with
      | nil => exact iff_of_false Ordering.noConfusion (List.not_lt_nil _)
      | cons d others =>
          rw [List.compareLex_cons_cons, Ordering.then_eq_lt, List.cons_lt_cons_iff, ih,
            Std.LawfulEqOrd.compare_eq_iff_eq]
          exact or_congr_left compareOfLessAndEq_eq_lt

theorem Language.compare_eq_lt_iff {a b : Language} : compare a b = .lt ↔ a.index < b.index :=
  Nat.compare_eq_lt

theorem Concept.compare_eq_lt_iff {a b : Concept} : compare a b = .lt ↔ a.index < b.index :=
  Nat.compare_eq_lt

def PinRecord.Before (a b : PinRecord) : Prop :=
  a.concept.index < b.concept.index ∨ a.concept = b.concept ∧ a.language.index < b.language.index

def WarningRecord.Before (a b : WarningRecord) : Prop :=
  a.term < b.term ∨ a.term = b.term ∧ a.language.index < b.language.index

def WarningRecord.spelledKey (warning : WarningRecord) : WarningKey :=
  { term := warning.term, language := warning.language }

theorem PinRecord.before_iff {a b : PinRecord} : a.Before b ↔ compare a.key b.key = .lt := by
  have hlex : compare a.key b.key =
      (compare a.concept b.concept).then (compare a.language b.language) := rfl
  rw [hlex, Ordering.then_eq_lt, Concept.compare_eq_lt_iff, Language.compare_eq_lt_iff,
    Std.LawfulEqOrd.compare_eq_iff_eq]
  rfl

theorem WarningRecord.before_iff {a b : WarningRecord} :
    a.Before b ↔ compare a.spelledKey b.spelledKey = .lt := by
  have hlex : compare a.spelledKey b.spelledKey =
      (compare a.term b.term).then (compare a.language b.language) := rfl
  rw [hlex, Ordering.then_eq_lt, Text.compare_eq_lt_iff, Language.compare_eq_lt_iff,
    Std.LawfulEqOrd.compare_eq_iff_eq]
  rfl

/-!
# What is saved
-/

theorem LanguageMap.mapValues_mapValues_id {α β : Type} {f : α → β} {g : β → α}
    (h : ∀ a, g (f a) = a) {map : LanguageMap α} : (map.mapValues f).mapValues g = map := by
  have hid : g ∘ f = id := funext h
  rcases map with ⟨slots⟩
  simp [mapValues, hid]

theorem CatalogDocument.eq_of_fields {a b : CatalogDocument} (hlanguages : a.languages = b.languages)
    (hpins : a.pins = b.pins) (hwarnings : a.warnings = b.warnings) : a = b := by
  cases a
  cases b
  cases hlanguages
  cases hpins
  cases hwarnings
  rfl

namespace Lexicon

open Text

variable {lexicon again : Lexicon}

theorem mem_pins_toDocument {pin : PinRecord} :
    pin ∈ lexicon.toDocument.pins ↔ lexicon.pins.entries[pin.key]? = some pin.type := by
  rw [← Std.TreeMap.mem_toList_iff_getElem?_eq_some, toDocument, PinTable.toList, List.map_map,
    List.mem_map]
  constructor
  · rintro ⟨entry, hentry, rfl⟩
    exact hentry
  · intro hentry
    exact ⟨_, hentry, rfl⟩

theorem mem_warnings_toDocument {warning : WarningRecord} :
    warning ∈ lexicon.toDocument.warnings ↔
      lexicon.warnings.entries[warning.spelledKey]? = some warning.entry := by
  rw [← Std.TreeMap.mem_toList_iff_getElem?_eq_some, toDocument, WarningTable.toList,
    List.map_map, List.mem_map]
  constructor
  · rintro ⟨entry, hentry, rfl⟩
    exact hentry
  · intro hentry
    exact ⟨_, hentry, rfl⟩

theorem keysIncrease_pins_toDocument (lexicon : Lexicon) :
    KeysIncrease PinRecord.key lexicon.toDocument.pins := by
  rw [toDocument, PinTable.toList, List.map_map]
  exact List.pairwise_map.mpr Std.TreeMap.ordered_keys_toList

theorem keysIncrease_warnings_toDocument (lexicon : Lexicon) :
    KeysIncrease WarningRecord.spelledKey lexicon.toDocument.warnings := by
  rw [toDocument, WarningTable.toList, List.map_map]
  exact List.pairwise_map.mpr Std.TreeMap.ordered_keys_toList

theorem toDocument_congr (hcatalog : again.catalog = lexicon.catalog)
    (hpins : ∀ key : PinKey, again.pins.entries[key]? = lexicon.pins.entries[key]?)
    (hwarnings : ∀ key : WarningKey,
      again.warnings.entries[key]? = lexicon.warnings.entries[key]?) :
    again.toDocument = lexicon.toDocument := by
  have hsameLanguages : again.toDocument.languages = lexicon.toDocument.languages := by
    rw [toDocument, toDocument, hcatalog]
  have hsamePins : again.toDocument.pins = lexicon.toDocument.pins := by
    refine again.keysIncrease_pins_toDocument.eq_of_mem_iff
      lexicon.keysIncrease_pins_toDocument fun pin => ?_
    rw [mem_pins_toDocument, mem_pins_toDocument, hpins]
  have hsameWarnings : again.toDocument.warnings = lexicon.toDocument.warnings := by
    refine again.keysIncrease_warnings_toDocument.eq_of_mem_iff
      lexicon.keysIncrease_warnings_toDocument fun warning => ?_
    rw [mem_warnings_toDocument, mem_warnings_toDocument, hwarnings]
  exact CatalogDocument.eq_of_fields hsameLanguages hsamePins hsameWarnings

/-!
# Loading what was saved
-/

theorem getElem?_pinTable_toDocument (lexicon : Lexicon) (key : PinKey) :
    lexicon.toDocument.pinTable.entries[key]? = lexicon.pins.entries[key]? := by
  ext type
  rw [CatalogDocument.getElem?_pinTable]
  simp only [lexicon.keysIncrease_pins_toDocument.lastOf_iff, mem_pins_toDocument]
  constructor
  · rintro ⟨pin, ⟨hpin, rfl⟩, rfl⟩
    exact hpin
  · intro hkey
    exact ⟨⟨key.concept, key.language, type⟩, ⟨hkey, rfl⟩, rfl⟩

def UpperWarnings (lexicon : Lexicon) : Prop :=
  ∀ (key : WarningKey) (entry : WarningEntry), lexicon.warnings.entries[key]? = some entry →
    upper key.term = key.term

theorem upperWarnings_of_toLexicon {document : CatalogDocument}
    (h : document.toLexicon = .ok lexicon) : lexicon.UpperWarnings := by
  intro key entry hentry
  rw [CatalogDocument.warnings_of_toLexicon h, CatalogDocument.getElem?_warningTable] at hentry
  rcases hentry with ⟨warning, hlast, _⟩
  rw [← hlast.holds]
  exact upper_upper warning.term

theorem key_of_mem_warnings (h : lexicon.UpperWarnings) {warning : WarningRecord}
    (hwarning : warning ∈ lexicon.toDocument.warnings) : warning.key = warning.spelledKey := by
  have hterm := h _ _ (mem_warnings_toDocument.mp hwarning)
  exact WarningRecord.key_eq_iff.mpr ⟨hterm, rfl⟩

theorem getElem?_warningTable_toDocument (h : lexicon.UpperWarnings) (key : WarningKey) :
    lexicon.toDocument.warningTable.entries[key]? = lexicon.warnings.entries[key]? := by
  have hkeys : KeysIncrease WarningRecord.key lexicon.toDocument.warnings := by
    refine lexicon.keysIncrease_warnings_toDocument.imp_of_mem ?_
    intro a b ha hb hlt
    rw [key_of_mem_warnings h ha, key_of_mem_warnings h hb]
    exact hlt
  ext entry
  rw [CatalogDocument.getElem?_warningTable]
  simp only [hkeys.lastOf_iff]
  constructor
  · rintro ⟨warning, ⟨hwarning, rfl⟩, rfl⟩
    rw [key_of_mem_warnings h hwarning]
    exact mem_warnings_toDocument.mp hwarning
  · intro hkey
    have hmem : { term := key.term, language := key.language, entry := entry } ∈
        lexicon.toDocument.warnings := mem_warnings_toDocument.mpr hkey
    exact ⟨_, ⟨hmem, key_of_mem_warnings h hmem⟩, rfl⟩

theorem languages_toDocument {document : CatalogDocument}
    (h : document.toLexicon = .ok lexicon) :
    lexicon.toDocument.languages = document.languages := by
  rw [toDocument, CatalogDocument.columns_of_toLexicon h]
  exact LanguageMap.mapValues_mapValues_id fun _ => rfl

/-- Two lexicons have the same terms, find the same concepts and give the same warnings. -/
structure Agrees (again lexicon : Lexicon) : Prop where
  surface_eq : ∀ language concept,
    again.catalog.surface? language concept = lexicon.catalog.surface? language concept
  resolve_eq : ∀ term language type,
    again.resolve? term language type = lexicon.resolve? term language type
  lookup_eq : ∀ term language type,
    again.warnings.lookup? term language type = lexicon.warnings.lookup? term language type

theorem agrees_of_tables (hcatalog : again.catalog = lexicon.catalog)
    (hpins : ∀ key : PinKey, again.pins.entries[key]? = lexicon.pins.entries[key]?)
    (hwarnings : ∀ key : WarningKey,
      again.warnings.entries[key]? = lexicon.warnings.entries[key]?) :
    again.Agrees lexicon where
  surface_eq := by
    intro language concept
    rw [hcatalog]
  resolve_eq := by
    intro term language type
    have hadmits : ∀ concept, again.pins.admits concept language type =
        lexicon.pins.admits concept language type := by
      intro concept
      rw [PinTable.admits, PinTable.admits, PinTable.get?, PinTable.get?, hpins]
    simp only [resolve?, resolveKey?, hadmits, hcatalog]
  lookup_eq := by
    intro term language type
    rw [WarningTable.lookup?, WarningTable.lookup?, hwarnings]

end Lexicon

namespace CatalogDocument

open Text

variable {document : CatalogDocument} {lexicon : Lexicon}

/-- The document lists each key of another one once, under the last entry that the key has there, and in
order, so that nothing depends on the order in which entries are read before they are sorted. -/
structure Tidies (saved document : CatalogDocument) : Prop where
  languages_eq : saved.languages = document.languages
  pins_increase : saved.pins.Pairwise PinRecord.Before
  mem_pins : ∀ pin, pin ∈ saved.pins ↔
    LastOf (fun other => other.concept = pin.concept ∧ other.language = pin.language)
      document.pins pin
  sort_pins : ∀ read, read.Perm saved.pins → sortByKey PinRecord.key read = saved.pins
  warnings_increase : saved.warnings.Pairwise WarningRecord.Before
  mem_warnings : ∀ warning, warning ∈ saved.warnings ↔
    ∃ last, LastOf (fun other => upper other.term = warning.term ∧
        other.language = warning.language) document.warnings last ∧
      { last with term := upper last.term } = warning
  sort_warnings : ∀ read, read.Perm saved.warnings →
    sortByKey WarningRecord.spelledKey read = saved.warnings

theorem tidies_of_toLexicon (h : document.toLexicon = .ok lexicon) :
    lexicon.toDocument.Tidies document where
  languages_eq := Lexicon.languages_toDocument h
  pins_increase := lexicon.keysIncrease_pins_toDocument.imp PinRecord.before_iff.mpr
  mem_pins := by
    intro pin
    rw [Lexicon.mem_pins_toDocument, pins_of_toLexicon h]
    exact get?_pinTable
  sort_pins := fun _ => lexicon.keysIncrease_pins_toDocument.sortByKey_eq
  warnings_increase := lexicon.keysIncrease_warnings_toDocument.imp WarningRecord.before_iff.mpr
  mem_warnings := by
    intro warning
    rw [Lexicon.mem_warnings_toDocument, warnings_of_toLexicon h, getElem?_warningTable]
    refine exists_congr fun last => ?_
    rw [LastOf.congr fun _ => WarningRecord.key_eq_iff]
    refine and_congr_right fun hlast => ?_
    rcases hlast.holds with ⟨hterm, hlanguage⟩
    rw [WarningRecord.mk.injEq]
    constructor
    · intro hentry
      exact ⟨hterm, hlanguage, hentry⟩
    · rintro ⟨_, _, hentry⟩
      exact hentry
  sort_warnings := fun _ => lexicon.keysIncrease_warnings_toDocument.sortByKey_eq

theorem toLexicon_toDocument (h : document.toLexicon = .ok lexicon) :
    lexicon.toDocument.toLexicon =
      .ok { catalog := lexicon.catalog, pins := lexicon.toDocument.pinTable,
            warnings := lexicon.toDocument.warningTable } := by
  rcases eq_of_toLexicon h with ⟨hcatalog, _, _, haligned⟩
  have htidies := tidies_of_toLexicon h
  rw [← htidies.languages_eq] at hcatalog
  apply toLexicon_of_faultless hcatalog
  rw [List.findSome?_eq_none_iff]
  intro pin hpin
  rw [pinFault?_eq_none_iff hcatalog, htidies.languages_eq]
  exact haligned.pins pin ((htidies.mem_pins pin).mp hpin).mem

/-- Saving lists what was loaded without repetition and in order.  It can be loaded again and gives a lexicon
that agrees with the first one and that is saved as the same document. -/
theorem toDocument_inverts (h : document.toLexicon = .ok lexicon) :
    lexicon.toDocument.Tidies document ∧
      ∃ again, lexicon.toDocument.toLexicon = .ok again ∧ again.Agrees lexicon ∧
        again.toDocument = lexicon.toDocument := by
  have hpins := lexicon.getElem?_pinTable_toDocument
  have hwarnings :=
    Lexicon.getElem?_warningTable_toDocument (Lexicon.upperWarnings_of_toLexicon h)
  exact ⟨tidies_of_toLexicon h, _, toLexicon_toDocument h,
    Lexicon.agrees_of_tables rfl hpins hwarnings, Lexicon.toDocument_congr rfl hpins hwarnings⟩

theorem toDocument_inverts_repeated :
    ∃ lexicon, repeated.toLexicon = .ok lexicon ∧ lexicon.toDocument.Tidies repeated ∧
      (∃ again, lexicon.toDocument.toLexicon = .ok again ∧ again.Agrees lexicon ∧
        again.toDocument = lexicon.toDocument) ∧
      lexicon.toDocument.pins = [⟨⟨0⟩, .german, .name⟩, ⟨⟨1⟩, .english, .name⟩] ∧
      lexicon.toDocument.warnings.map WarningRecord.term = ["AGE".toList, "FIRE".toList] := by
  have h := eq_ok_get_toOption loads_repeated
  rcases toDocument_inverts h with ⟨htidies, hagain⟩
  refine ⟨_, h, htidies, hagain, ?_, ?_⟩
  · decide +kernel
  · decide +kernel

end CatalogDocument
end Polyquery
