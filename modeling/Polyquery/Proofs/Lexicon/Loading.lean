import Polyquery.Proofs.Lexicon.Resolution
import Polyquery.Proofs.Lexicon.Tables

/-!
# Loading

A document makes a lexicon if and only if its columns are aligned and its pins point into them.  Otherwise the
first fault is reported: faults of the columns before those of the pins, the columns in the order of the
languages, and the length of a column before its terms.  A lexicon that was loaded holds what the document
says, where the last of several entries with one key counts.
-/

namespace Polyquery

open Text

theorem eq_ok_get_toOption {ε α : Type} {answer : Except ε α}
    (h : answer.toOption.isSome = true) : answer = .ok (answer.toOption.get h) := by
  cases answer with
  | error error => cases h
  | ok value => rfl

/-!
# Documents without faults
-/

structure SoundColumn (size : Nat) (terms : List Text) : Prop where
  length_eq : terms.length = size
  nonblank : ∀ term ∈ terms, isBlankText term = false

/-- Columns for the same concepts, of which there is at least one, with a column for the canonical language. -/
structure AlignedColumns (columns : LanguageMap (List Text)) (size : Nat) : Prop where
  canonical : (columns.get? .canonical).isSome = true
  size_pos : 0 < size
  sound : ∀ language terms, columns.get? language = some terms → SoundColumn size terms

namespace CatalogDocument

structure Aligned (document : CatalogDocument) (size : Nat) : Prop where
  columns : AlignedColumns document.languages size
  pins : ∀ pin ∈ document.pins, pin.concept.index < size ∧
    (document.languages.get? pin.language).isSome = true

end CatalogDocument

/-!
# Faults
-/

/-- The fault of one column: its length, or else the first term that is white space only. -/
inductive ColumnFault (size : Nat) (language : Language) (terms : List Text) : CatalogError → Prop where
  | unequal (hlength : terms.length ≠ size) :
      ColumnFault size language terms (.unequalColumn language terms.length size)
  | blank {index : Nat} {term : Text} (hlength : terms.length = size)
      (hterm : terms[index]? = some term) (hblank : isBlankText term = true)
      (hbefore : ∀ earlier other, earlier < index → terms[earlier]? = some other →
        isBlankText other = false) :
      ColumnFault size language terms (.blankTerm language index)

inductive ColumnsFault (columns : LanguageMap (List Text)) : CatalogError → Prop where
  | noCanonical (hcanonical : columns.get? .canonical = none) :
      ColumnsFault columns .noCanonicalColumn
  | noConcepts (hcanonical : columns.get? .canonical = some []) :
      ColumnsFault columns .noConcepts
  | column {canonical terms : List Text} {language : Language} {error : CatalogError}
      (hcanonical : columns.get? .canonical = some canonical) (hne : canonical ≠ [])
      (hterms : columns.get? language = some terms)
      (hfault : ColumnFault canonical.length language terms error)
      (hearlier : ∀ earlier others, earlier.index < language.index →
        columns.get? earlier = some others → SoundColumn canonical.length others) :
      ColumnsFault columns error

namespace CatalogDocument

inductive PinFault (document : CatalogDocument) (size : Nat) (pin : PinRecord) : DocumentError → Prop where
  | outOfRange (hrange : size ≤ pin.concept.index) :
      PinFault document size pin (.conceptOutOfRange pin.concept size)
  | foreign (hrange : pin.concept.index < size)
      (hlanguage : document.languages.get? pin.language = none) :
      PinFault document size pin (.foreignLanguage pin.language)

inductive FirstFault (document : CatalogDocument) : DocumentError → Prop where
  | columns {error : CatalogError} (hfault : ColumnsFault document.languages error) :
      FirstFault document (.catalog error)
  | pin {size : Nat} {before after : List PinRecord} {pin : PinRecord} {error : DocumentError}
      (hcolumns : AlignedColumns document.languages size)
      (hsplit : document.pins = before ++ pin :: after)
      (hfault : PinFault document size pin error)
      (hbefore : ∀ earlier ∈ before, earlier.concept.index < size ∧
        (document.languages.get? earlier.language).isSome = true) :
      FirstFault document error

end CatalogDocument

/-!
# Checking columns
-/

namespace LanguageMap

variable {α : Type} {map : LanguageMap α} {language : Language} {a : α}

theorem pairwise_toList (map : LanguageMap α) :
    map.toList.Pairwise fun a b => a.1.index < b.1.index := by
  refine Language.pairwise_all.filterMap _ ?_
  intro earlier later hindex
  simp only [Option.map_eq_some_iff]
  rintro _ ⟨_, _, rfl⟩ _ ⟨_, _, rfl⟩
  exact hindex

theorem findSome?_toList_eq_some_iff {β : Type} {f : Language × α → Option β} {b : β} :
    map.toList.findSome? f = some b ↔
      ∃ language a, map.get? language = some a ∧ f (language, a) = some b ∧
        ∀ earlier other, earlier.index < language.index → map.get? earlier = some other →
          f (earlier, other) = none := by
  have hsorted := pairwise_toList map
  rw [List.findSome?_eq_some_iff]
  constructor
  · rintro ⟨before, ⟨language, a⟩, after, hsplit, hb, hbefore⟩
    have hmem : ∀ entry, entry ∈ map.toList ↔ entry ∈ before ++ (language, a) :: after := by
      rw [hsplit]
      exact fun _ => Iff.rfl
    refine ⟨language, a, mem_toList.mp ((hmem _).mpr (by simp)), hb, ?_⟩
    intro earlier other hindex hother
    rcases List.mem_append.mp ((hmem _).mp (mem_toList.mpr hother)) with hentry | hentry
    · exact hbefore _ hentry
    · -- the entries from the one that was found on are for later languages
      rw [hsplit] at hsorted
      have hlater := (List.pairwise_append.mp hsorted).right.left
      rcases List.mem_cons.mp hentry with heq | hentry
      · cases heq
        exact absurd hindex (Nat.lt_irrefl _)
      · exact absurd hindex (Nat.lt_asymm ((List.pairwise_cons.mp hlater).left _ hentry))
  · rintro ⟨language, a, hlanguage, hb, hearlier⟩
    rcases List.append_of_mem (mem_toList.mpr hlanguage) with ⟨before, after, hsplit⟩
    refine ⟨before, (language, a), after, hsplit, hb, ?_⟩
    intro entry hentry
    have hmem : entry ∈ map.toList := by
      rw [hsplit]
      exact List.mem_append_left _ hentry
    rw [hsplit] at hsorted
    exact hearlier entry.1 entry.2
      ((List.pairwise_append.mp hsorted).right.right entry hentry _ List.mem_cons_self)
      (mem_toList.mp hmem)

end LanguageMap

namespace Catalog

variable {columns : LanguageMap (List Text)} {catalog : Catalog} {size : Nat} {language : Language}
  {terms : List Text} {error : CatalogError}

theorem soundColumn_iff : columnFault? size language terms = none ↔ SoundColumn size terms := by
  rw [columnFault?_eq_none]
  exact ⟨fun h => ⟨h.left, h.right⟩, fun h => ⟨h.length_eq, h.nonblank⟩⟩

theorem columnFault?_eq_some_iff :
    columnFault? size language terms = some error ↔ ColumnFault size language terms error := by
  rw [columnFault?]
  split
  · rename_i hlength
    rw [Option.some_inj]
    constructor
    · rintro rfl
      exact .unequal hlength
    · intro h
      cases h with
      | unequal _ => rfl
      | blank heq _ _ _ => exact absurd heq hlength
  · rename_i hlength
    have hlength := Decidable.not_not.mp hlength
    rw [Option.map_eq_some_iff]
    constructor
    · rintro ⟨index, hindex, rfl⟩
      rcases List.findIdx?_eq_some_iff_getElem.mp hindex with ⟨hbound, hblank, hbefore⟩
      refine .blank hlength (List.getElem?_eq_getElem hbound) hblank ?_
      intro earlier other hearlier hother
      rcases List.getElem?_eq_some_iff.mp hother with ⟨_, rfl⟩
      exact Bool.eq_false_iff.mpr (hbefore earlier hearlier)
    · intro h
      cases h with
      | unequal hne => exact absurd hlength hne
      | @blank index term _ hterm hblank hbefore =>
          rcases List.getElem?_eq_some_iff.mp hterm with ⟨hbound, rfl⟩
          refine ⟨index, List.findIdx?_eq_some_iff_getElem.mpr ⟨hbound, hblank, ?_⟩, rfl⟩
          intro earlier hearlier
          exact Bool.eq_false_iff.mp
            (hbefore earlier _ hearlier (List.getElem?_eq_getElem (Nat.lt_trans hearlier hbound)))

theorem firstFault?_eq_some_iff :
    firstFault? size columns = some error ↔
      ∃ language terms, columns.get? language = some terms ∧
        ColumnFault size language terms error ∧
        ∀ earlier others, earlier.index < language.index → columns.get? earlier = some others →
          SoundColumn size others := by
  simp only [firstFault?, LanguageMap.findSome?_toList_eq_some_iff, columnFault?_eq_some_iff,
    soundColumn_iff]

theorem columnsFault_of_ofColumns (h : ofColumns columns = .error error) :
    ColumnsFault columns error := by
  unfold ofColumns at h
  split at h
  · rename_i hcanonical
    cases h
    exact .noCanonical hcanonical
  · rename_i canonical hcanonical
    split at h
    · rename_i hsize
      cases h
      exact .noConcepts (hcanonical.trans (congrArg some (List.length_eq_zero_iff.mp hsize)))
    · rename_i hsize
      split at h
      · rename_i hfault
        cases h
        rcases firstFault?_eq_some_iff.mp hfault with
          ⟨language, terms, hterms, hcolumn, hearlier⟩
        exact .column hcanonical (mt List.length_eq_zero_iff.mpr hsize) hterms hcolumn hearlier
      · cases h

theorem ofColumns_of_columnsFault (h : ColumnsFault columns error) :
    ofColumns columns = .error error := by
  unfold ofColumns
  cases h with
  | noCanonical hcanonical => split <;> simp_all
  | noConcepts hcanonical => split <;> simp_all
  | column hcanonical hne hterms hfault hearlier =>
      have hfirst := firstFault?_eq_some_iff.mpr ⟨_, _, hterms, hfault, hearlier⟩
      split
      · rename_i hnone
        rw [hcanonical] at hnone
        cases hnone
      · rename_i others hsome
        cases hcanonical.symm.trans hsome
        rw [dif_neg (mt List.length_eq_zero_iff.mp hne)]
        split
        · rename_i fault hfault
          exact congrArg Except.error (Option.some.inj (hfault.symm.trans hfirst))
        · rename_i hfault
          rw [hfirst] at hfault
          cases hfault

theorem alignedColumns_of_ofColumns (h : ofColumns columns = .ok catalog) :
    catalog.columns = columns.mapValues Column.ofTerms ∧ AlignedColumns columns catalog.size := by
  unfold ofColumns at h
  split at h
  · cases h
  · rename_i canonical hcanonical
    split at h
    · cases h
    · rename_i hsize
      split at h
      · cases h
      · rename_i hfault
        cases h
        refine ⟨rfl, Option.isSome_of_eq_some hcanonical, Nat.pos_of_ne_zero hsize, ?_⟩
        intro language terms hterms
        rcases firstFault?_eq_none.mp hfault language terms hterms with ⟨hlength, hnonblank⟩
        exact ⟨hlength, hnonblank⟩

theorem not_columnsFault (h : AlignedColumns columns size) :
    ¬ColumnsFault columns error := by
  intro hfault
  cases hfault with
  | noCanonical hcanonical =>
      have hsome := h.canonical
      rw [hcanonical] at hsome
      cases hsome
  | noConcepts hcanonical =>
      have hpos := h.size_pos
      rw [← (h.sound _ _ hcanonical).length_eq] at hpos
      exact absurd hpos (Nat.lt_irrefl 0)
  | column hcanonical _ hterms hfault _ =>
      have hlength := (h.sound _ _ hcanonical).length_eq
      have hsound := h.sound _ _ hterms
      cases hfault with
      | unequal hne => exact hne (hsound.length_eq.trans hlength.symm)
      | blank _ hterm hblank _ =>
          rw [hsound.nonblank _ (List.mem_of_getElem? hterm)] at hblank
          cases hblank

theorem exists_ofColumns (h : AlignedColumns columns size) :
    ∃ catalog, ofColumns columns = .ok catalog ∧ catalog.size = size := by
  cases hcatalog : ofColumns columns with
  | error error => exact absurd (columnsFault_of_ofColumns hcatalog) (not_columnsFault h)
  | ok catalog =>
      have haligned := (alignedColumns_of_ofColumns hcatalog).right
      rcases Option.isSome_iff_exists.mp h.canonical with ⟨canonical, hcanonical⟩
      have hsize := (haligned.sound _ _ hcanonical).length_eq
      exact ⟨catalog, rfl, hsize.symm.trans (h.sound _ _ hcanonical).length_eq⟩

end Catalog

/-!
# Checking pins
-/

namespace CatalogDocument

variable {document : CatalogDocument} {lexicon : Lexicon} {size : Nat} {error : DocumentError}

theorem hasLanguage_of_ofColumns {columns : LanguageMap (List Text)} {catalog : Catalog}
    (h : Catalog.ofColumns columns = .ok catalog) (language : Language) :
    catalog.hasLanguage language = (columns.get? language).isSome := by
  rw [Catalog.hasLanguage, (Catalog.alignedColumns_of_ofColumns h).left,
    LanguageMap.get?_mapValues, Option.isSome_map]

theorem pinFault?_eq_some_iff {catalog : Catalog} {pin : PinRecord}
    (h : Catalog.ofColumns document.languages = .ok catalog) :
    pinFault? catalog pin = some error ↔ PinFault document catalog.size pin error := by
  rw [pinFault?, hasLanguage_of_ofColumns h]
  by_cases hrange : catalog.size ≤ pin.concept.index
  · rw [if_pos hrange, Option.some_inj]
    constructor
    · rintro rfl
      exact .outOfRange hrange
    · intro hfault
      cases hfault with
      | outOfRange _ => rfl
      | foreign hlt _ => exact absurd hrange (Nat.not_le.mpr hlt)
  · rw [if_neg hrange]
    cases hlanguage : document.languages.get? pin.language with
    | none =>
        rw [Option.isSome_none, Bool.not_false, if_pos rfl, Option.some_inj]
        constructor
        · rintro rfl
          exact .foreign (Nat.not_le.mp hrange) hlanguage
        · intro hfault
          cases hfault with
          | outOfRange hle => exact absurd hle hrange
          | foreign _ _ => rfl
    | some terms =>
        refine iff_of_false (by simp) ?_
        intro hfault
        cases hfault with
        | outOfRange hle => exact hrange hle
        | foreign _ hnone => exact absurd (hlanguage.symm.trans hnone) (by simp)

theorem pinFault?_eq_none_iff {catalog : Catalog} {pin : PinRecord}
    (h : Catalog.ofColumns document.languages = .ok catalog) :
    pinFault? catalog pin = none ↔ pin.concept.index < catalog.size ∧
      (document.languages.get? pin.language).isSome = true := by
  rw [pinFault?, hasLanguage_of_ofColumns h]
  by_cases hrange : catalog.size ≤ pin.concept.index
  · rw [if_pos hrange]
    exact iff_of_false (by simp) fun hsound => absurd hrange (Nat.not_le.mpr hsound.left)
  · rw [if_neg hrange, and_iff_right (Nat.not_le.mp hrange)]
    cases document.languages.get? pin.language with
    | none => simp
    | some terms => simp

theorem toLexicon_of_fault {catalog : Catalog}
    (hcatalog : Catalog.ofColumns document.languages = .ok catalog)
    (hfault : document.pins.findSome? (pinFault? catalog) = some error) :
    document.toLexicon = .error error := by
  rw [toLexicon, hcatalog]
  simp only [hfault]

theorem toLexicon_of_faultless {catalog : Catalog}
    (hcatalog : Catalog.ofColumns document.languages = .ok catalog)
    (hfault : document.pins.findSome? (pinFault? catalog) = none) :
    document.toLexicon =
      .ok { catalog := catalog, pins := document.pinTable, warnings := document.warningTable } := by
  rw [toLexicon, hcatalog]
  simp only [hfault]
  rfl

theorem findSome?_pinFault?_eq_some_iff {catalog : Catalog}
    (hcatalog : Catalog.ofColumns document.languages = .ok catalog) :
    document.pins.findSome? (pinFault? catalog) = some error ↔
      ∃ before pin after, document.pins = before ++ pin :: after ∧
        PinFault document catalog.size pin error ∧
        ∀ earlier ∈ before, earlier.concept.index < catalog.size ∧
          (document.languages.get? earlier.language).isSome = true := by
  simp only [List.findSome?_eq_some_iff, pinFault?_eq_some_iff hcatalog,
    pinFault?_eq_none_iff hcatalog]

theorem toLexicon_eq_error_iff : document.toLexicon = .error error ↔ FirstFault document error := by
  constructor
  · intro h
    cases hcatalog : Catalog.ofColumns document.languages with
    | error fault =>
        rw [toLexicon, hcatalog] at h
        cases h
        exact .columns (Catalog.columnsFault_of_ofColumns hcatalog)
    | ok catalog =>
        cases hpins : document.pins.findSome? (pinFault? catalog) with
        | none =>
            rw [toLexicon_of_faultless hcatalog hpins] at h
            cases h
        | some fault =>
            rw [toLexicon_of_fault hcatalog hpins] at h
            cases h
            rcases (findSome?_pinFault?_eq_some_iff hcatalog).mp hpins with
              ⟨before, pin, after, hsplit, hfault, hbefore⟩
            have hcolumns := (Catalog.alignedColumns_of_ofColumns hcatalog).right
            exact .pin hcolumns hsplit hfault hbefore
  · intro h
    cases h with
    | columns hfault => rw [toLexicon, Catalog.ofColumns_of_columnsFault hfault]
    | pin hcolumns hsplit hfault hbefore =>
        rcases Catalog.exists_ofColumns hcolumns with ⟨catalog, hcatalog, rfl⟩
        apply toLexicon_of_fault hcatalog
        exact (findSome?_pinFault?_eq_some_iff hcatalog).mpr
          ⟨_, _, _, hsplit, hfault, hbefore⟩

theorem toLexicon_of_aligned (h : document.Aligned size) :
    ∃ catalog, Catalog.ofColumns document.languages = .ok catalog ∧ document.toLexicon =
      .ok { catalog := catalog, pins := document.pinTable, warnings := document.warningTable } := by
  rcases Catalog.exists_ofColumns h.columns with ⟨catalog, hcatalog, rfl⟩
  refine ⟨catalog, hcatalog, toLexicon_of_faultless hcatalog ?_⟩
  rw [List.findSome?_eq_none_iff]
  intro pin hpin
  exact (pinFault?_eq_none_iff hcatalog).mpr (h.pins pin hpin)

/-!
# What was loaded
-/

theorem eq_of_toLexicon (h : document.toLexicon = .ok lexicon) :
    Catalog.ofColumns document.languages = .ok lexicon.catalog ∧
      lexicon.pins = document.pinTable ∧ lexicon.warnings = document.warningTable ∧
      document.Aligned lexicon.catalog.size := by
  cases hcatalog : Catalog.ofColumns document.languages with
  | error fault =>
      rw [toLexicon, hcatalog] at h
      cases h
  | ok catalog =>
      cases hpins : document.pins.findSome? (pinFault? catalog) with
      | some fault =>
          rw [toLexicon_of_fault hcatalog hpins] at h
          cases h
      | none =>
          rw [toLexicon_of_faultless hcatalog hpins] at h
          cases h
          have hcolumns := (Catalog.alignedColumns_of_ofColumns hcatalog).right
          refine ⟨rfl, rfl, rfl, hcolumns, ?_⟩
          intro pin hpin
          exact (pinFault?_eq_none_iff hcatalog).mp (List.findSome?_eq_none_iff.mp hpins pin hpin)

theorem columns_of_toLexicon (h : document.toLexicon = .ok lexicon) :
    lexicon.catalog.columns = document.languages.mapValues Column.ofTerms :=
  (Catalog.alignedColumns_of_ofColumns (eq_of_toLexicon h).left).left

theorem pins_of_toLexicon (h : document.toLexicon = .ok lexicon) :
    lexicon.pins = document.pinTable :=
  (eq_of_toLexicon h).right.left

theorem warnings_of_toLexicon (h : document.toLexicon = .ok lexicon) :
    lexicon.warnings = document.warningTable :=
  (eq_of_toLexicon h).right.right.left

theorem terms?_of_toLexicon (h : document.toLexicon = .ok lexicon) (language : Language) :
    lexicon.catalog.terms? language = document.languages.get? language := by
  rw [Catalog.terms?, columns_of_toLexicon h, LanguageMap.get?_mapValues, Option.map_map]
  exact Option.map_id'

theorem hasLanguage_of_toLexicon (h : document.toLexicon = .ok lexicon) (language : Language) :
    lexicon.catalog.hasLanguage language = (document.languages.get? language).isSome :=
  hasLanguage_of_ofColumns (eq_of_toLexicon h).left language

theorem surface?_of_toLexicon (h : document.toLexicon = .ok lexicon) (language : Language)
    (concept : Concept) :
    lexicon.catalog.surface? language concept =
      (document.languages.get? language).bind fun terms => terms[concept.index]? := by
  rw [← terms?_of_toLexicon h, Catalog.terms?, Catalog.surface?, Option.bind_map]
  rfl

end CatalogDocument

namespace Lexicon

/-- The concept is spelled like the term in the language and may be read as `type` there. -/
def Names (lexicon : Lexicon) (term : Text) (language : Language) (type : SearchType)
    (concept : Concept) : Prop :=
  ∃ surface, lexicon.catalog.surface? language concept = some surface ∧
    folded surface = folded term ∧ lexicon.pins.admits concept language type = true

structure Holds (lexicon : Lexicon) (document : CatalogDocument) : Prop where
  aligned : document.Aligned lexicon.catalog.size
  surface_eq : ∀ language concept, lexicon.catalog.surface? language concept =
    (document.languages.get? language).bind fun terms => terms[concept.index]?
  surface_isSome : ∀ language concept,
    (lexicon.catalog.surface? language concept).isSome = true ↔
      (document.languages.get? language).isSome = true ∧ concept.index < lexicon.catalog.size
  resolve_lt : ∀ term language type concept, lexicon.resolve? term language type = some concept →
    concept.index < lexicon.catalog.size ∧ ∀ other, lexicon.catalog.hasLanguage other = true →
      (lexicon.catalog.surface? other concept).isSome = true
  pin_iff : ∀ concept language type, lexicon.pins.get? concept language = some type ↔
    LastOf (fun pin => pin.concept = concept ∧ pin.language = language) document.pins
      { concept := concept, language := language, type := type }
  warning_iff : ∀ term language type entry,
    lexicon.warnings.lookup? term language type = some entry ↔
      (∃ warning, LastOf
          (fun other => upper other.term = upper term ∧ other.language = language)
          document.warnings warning ∧ warning.entry = entry) ∧
        entry.qualifier.admits type = true
  resolve_iff : ∀ term language type concept,
    lexicon.resolve? term language type = some concept ↔
      lexicon.Names term language type concept ∧
        ∀ earlier, earlier.index < concept.index → ¬lexicon.Names term language type earlier
  resolve_surface : ∀ term language type concept,
    lexicon.catalog.surface? language concept = some term →
    lexicon.pins.admits concept language type = true →
    ∃ found, lexicon.resolve? term language type = some found ∧ found.index ≤ concept.index

variable {lexicon : Lexicon} {document : CatalogDocument}

theorem resolve?_eq_some_iff_names {term : Text} {language : Language} {type : SearchType}
    {concept : Concept} :
    lexicon.resolve? term language type = some concept ↔
      lexicon.Names term language type concept ∧
        ∀ earlier, earlier.index < concept.index → ¬lexicon.Names term language type earlier := by
  rw [resolve?_eq_some_iff]
  refine and_congr_right fun _ => ?_
  constructor
  · rintro hfirst earlier hindex ⟨surface, hsurface, hkey, hadmits⟩
    rw [hfirst earlier surface hindex hsurface hkey] at hadmits
    cases hadmits
  · intro hfirst earlier surface hindex hsurface hkey
    rw [← Bool.not_eq_true]
    intro hadmits
    exact hfirst earlier hindex ⟨surface, hsurface, hkey, hadmits⟩

theorem exists_resolve?_of_names {term : Text} {language : Language} {type : SearchType}
    {concept : Concept} (h : lexicon.Names term language type concept) :
    ∃ found, lexicon.resolve? term language type = some found ∧ found.index ≤ concept.index := by
  rcases h with ⟨surface, hsurface, hkey, hadmits⟩
  cases hfound : lexicon.resolve? term language type with
  | none =>
      have hrefused := List.find?_eq_none.mp hfound concept
        (Catalog.mem_candidates.mpr ⟨surface, hsurface, hkey⟩)
      exact absurd hadmits hrefused
  | some found =>
      refine ⟨found, rfl, Nat.le_of_not_lt fun hindex => ?_⟩
      exact (resolve?_eq_some_iff_names.mp hfound).right concept hindex
        ⟨surface, hsurface, hkey, hadmits⟩

theorem holds_of_toLexicon (h : document.toLexicon = .ok lexicon) : lexicon.Holds document where
  aligned := (CatalogDocument.eq_of_toLexicon h).right.right.right
  surface_eq := CatalogDocument.surface?_of_toLexicon h
  surface_isSome := by
    intro language concept
    rw [← CatalogDocument.hasLanguage_of_toLexicon h]
    constructor
    · intro hsome
      rcases Option.isSome_iff_exists.mp hsome with ⟨term, hterm⟩
      rcases Catalog.surface?_eq_some_iff.mp hterm with ⟨_, hcolumn, _⟩
      exact ⟨Option.isSome_of_eq_some hcolumn, Catalog.index_lt_size_of_surface? hterm⟩
    · rintro ⟨hlanguage, hindex⟩
      exact Option.isSome_iff_exists.mpr (Catalog.exists_surface? hlanguage hindex)
  resolve_lt := by
    intro term language type concept hfound
    rcases exists_surface_of_resolve? hfound with ⟨_, hsurface, _, _⟩
    refine ⟨Catalog.index_lt_size_of_surface? hsurface, ?_⟩
    intro other hother
    exact Option.isSome_iff_exists.mpr (exists_surface_in_target hfound hother)
  pin_iff := by
    intro concept language type
    rw [CatalogDocument.pins_of_toLexicon h]
    exact CatalogDocument.get?_pinTable
  warning_iff := by
    intro term language type entry
    rw [CatalogDocument.warnings_of_toLexicon h]
    exact CatalogDocument.lookup?_warningTable
  resolve_iff := fun _ _ _ _ => resolve?_eq_some_iff_names
  resolve_surface := fun _ _ _ _ hsurface hadmits =>
    exists_resolve?_of_names ⟨_, hsurface, rfl, hadmits⟩

end Lexicon

namespace CatalogDocument

/-- Exactly the aligned documents are accepted, any other one is refused for its first fault, and the lexicon
of an accepted document holds what the document says. -/
theorem toLexicon_accepts_aligned (document : CatalogDocument) :
    ((∃ lexicon, document.toLexicon = .ok lexicon) ↔ ∃ size, document.Aligned size) ∧
      (∀ error, document.toLexicon = .error error ↔ document.FirstFault error) ∧
      ∀ lexicon, document.toLexicon = .ok lexicon → lexicon.Holds document := by
  refine ⟨⟨?_, ?_⟩, fun _ => toLexicon_eq_error_iff, fun _ => Lexicon.holds_of_toLexicon⟩
  · rintro ⟨lexicon, h⟩
    exact ⟨lexicon.catalog.size, (eq_of_toLexicon h).right.right.right⟩
  · rintro ⟨_, haligned⟩
    rcases toLexicon_of_aligned haligned with ⟨_, _, h⟩
    exact ⟨_, h⟩

def repeated : CatalogDocument :=
  { languages := .ofList [
      (.english, ["fire".toList, "age".toList]),
      (.german, ["feuer".toList, "alter".toList])]
    pins := [⟨⟨1⟩, .english, .move⟩, ⟨⟨0⟩, .german, .name⟩, ⟨⟨1⟩, .english, .name⟩]
    warnings := [
      ⟨"fire".toList, .english, ⟨.any, "a".toList, "b".toList⟩⟩,
      ⟨"Age".toList, .english, ⟨.any, "c".toList, "d".toList⟩⟩,
      ⟨"AGE".toList, .english, ⟨.only .name, "e".toList, "f".toList⟩⟩] }

theorem loads_repeated : repeated.toLexicon.toOption.isSome = true := by
  decide +kernel

theorem toLexicon_accepts_aligned_repeated :
    ∃ lexicon, repeated.toLexicon = .ok lexicon ∧
      lexicon.pins.get? ⟨1⟩ .english = some .name ∧
      lexicon.warnings.lookup? "age".toList .english .name =
        some ⟨.only .name, "e".toList, "f".toList⟩ := by
  have h := eq_ok_get_toOption loads_repeated
  have hholds := (toLexicon_accepts_aligned repeated).right.right _ h
  refine ⟨_, h, ?_, ?_⟩
  · rw [hholds.pin_iff]
    exact ⟨repeated.pins.take 2, [], rfl, ⟨rfl, rfl⟩, by simp⟩
  · rw [hholds.warning_iff]
    refine ⟨⟨⟨"AGE".toList, .english, ⟨.only .name, "e".toList, "f".toList⟩⟩, ?_, rfl⟩, rfl⟩
    exact ⟨repeated.warnings.take 2, [], rfl, by decide +kernel, by simp⟩

end CatalogDocument
end Polyquery
