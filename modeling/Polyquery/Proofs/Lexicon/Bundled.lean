import Polyquery.Lexicon.Bundled
import Polyquery.Proofs.Lexicon.Loading

/-!
# The bundled lexicon

The columns and pins of the bundled lexicon are those of its document.  In each of its columns a search key
stands for one concept, with one exception: where two concepts have the same term, they are pinned to
different readings.
-/

namespace Polyquery
namespace Lexicon

theorem toLexicon_bundled : Bundled.document.toLexicon = .ok bundled :=
  eq_ok_get_toOption Bundled.exists_lexicon

theorem pins_bundled : bundled.pins = Bundled.document.pinTable :=
  CatalogDocument.pins_of_toLexicon toLexicon_bundled

theorem terms?_bundled (language : Language) :
    bundled.catalog.terms? language = Bundled.document.languages.get? language :=
  CatalogDocument.terms?_of_toLexicon toLexicon_bundled language

theorem surface?_bundled (language : Language) (concept : Concept) :
    bundled.catalog.surface? language concept =
      (Bundled.document.languages.get? language).bind fun terms => terms[concept.index]? :=
  CatalogDocument.surface?_of_toLexicon toLexicon_bundled language concept

theorem mem_pins_of_get? {language : Language} {concept : Concept} {type : SearchType}
    (h : bundled.pins.get? concept language = some type) :
    { concept := concept, language := language, type := type } ∈ Bundled.pins := by
  rw [pins_bundled] at h
  exact (CatalogDocument.get?_pinTable.mp h).mem

end Lexicon

/-!
# The terms by their characters

The columns hold string literals, and taking a literal apart into characters costs the kernel more than any
check of the characters does.  A literal unifies with the string of its characters, though, so the columns
are first matched with columns of characters, and then these are checked.
-/

namespace Bundled

inductive Spelled : List String → List Text → Prop where
  | nil : Spelled [] []
  | cons {strings : List String} {terms : List Text} {term : Text} (h : Spelled strings terms) :
      Spelled (String.ofList term :: strings) (term :: terms)

theorem Spelled.map_toList {strings : List String} {terms : List Text}
    (h : Spelled strings terms) : strings.map String.toList = terms := by
  induction h with
  | nil => rfl
  | cons _ ih => rw [List.map_cons, ih, String.toList_ofList]

inductive SpelledColumns : List (Language × List Text) → List (Language × List Text) → Prop where
  | nil : SpelledColumns [] []
  | cons {table spelled : List (Language × List Text)} {language : Language}
      {strings : List String} {terms : List Text} (hterms : Spelled strings terms)
      (h : SpelledColumns table spelled) :
      SpelledColumns (column language strings :: table) ((language, terms) :: spelled)

theorem SpelledColumns.eq {table spelled : List (Language × List Text)}
    (h : SpelledColumns table spelled) : table = spelled := by
  induction h with
  | nil => rfl
  | cons hterms _ ih => rw [column, hterms.map_toList, ih]

theorem languages_of_spelled {spelled : List (Language × List Text)}
    (h : SpelledColumns columns spelled) : document.languages = .ofList spelled := by
  rw [document, h.eq]

end Bundled

namespace Lexicon

/-!
# Concepts with the same key
-/

theorem pairwise_key_document : ∀ language ∈ Language.all,
    ∀ terms ∈ Bundled.document.languages.get? language,
      terms.zipIdx.Pairwise fun a b => Text.folded a.1 = Text.folded b.1 →
        a.1 = b.1 ∧ Bundled.document.pinTable.get? ⟨a.2⟩ language = some .name ∧
          Bundled.document.pinTable.get? ⟨b.2⟩ language = some .move := by
  rw [Bundled.languages_of_spelled (by repeat constructor)]
  decide +kernel

theorem type_eq_of_mem_pins : ∀ pin ∈ Bundled.pins, ∀ other ∈ Bundled.pins,
    pin.concept = other.concept → pin.type = other.type := by
  decide +kernel

theorem exists_english_pin : ∀ pin ∈ Bundled.pins,
    (Bundled.document.pinTable.get? pin.concept .english).isSome = true := by
  decide +kernel

variable {language : Language} {concept other : Concept}

theorem pins_of_folded_eq {term spelling : Text}
    (hterm : bundled.catalog.surface? language concept = some term)
    (hspelling : bundled.catalog.surface? language other = some spelling)
    (hkey : Text.folded term = Text.folded spelling) (hindex : concept.index < other.index) :
    term = spelling ∧ bundled.pins.get? concept language = some .name ∧
      bundled.pins.get? other language = some .move := by
  rcases Catalog.surface?_eq_some_iff_terms.mp hterm with ⟨terms, hterms, hplace⟩
  rcases Catalog.surface?_eq_some_iff_terms.mp hspelling with ⟨others, hothers, hotherPlace⟩
  cases hterms.symm.trans hothers
  rw [terms?_bundled] at hterms
  rcases List.getElem?_eq_some_iff.mp hplace with ⟨hbound, rfl⟩
  rcases List.getElem?_eq_some_iff.mp hotherPlace with ⟨hotherBound, rfl⟩
  have hkeys := List.pairwise_iff_getElem.mp
    (pairwise_key_document language (Language.mem_all language) terms hterms)
    concept.index other.index (by simpa using hbound) (by simpa using hotherBound) hindex
  simp only [List.getElem_zipIdx, Nat.zero_add] at hkeys
  rw [pins_bundled]
  exact hkeys hkey

theorem eq_of_folded_eq {term spelling : Text}
    (hterm : bundled.catalog.surface? language concept = some term)
    (hspelling : bundled.catalog.surface? language other = some spelling)
    (hkey : Text.folded term = Text.folded spelling) : term = spelling := by
  rcases Nat.lt_trichotomy concept.index other.index with hindex | hindex | hindex
  · exact (pins_of_folded_eq hterm hspelling hkey hindex).left
  · rcases concept with ⟨place⟩
    cases hindex
    exact Option.some.inj (hterm.symm.trans hspelling)
  · exact (pins_of_folded_eq hspelling hterm hkey.symm hindex).left.symm

/-- A term is found again by the readings that its concept is not kept from. -/
theorem resolve?_surface_iff {term : Text}
    (hterm : bundled.catalog.surface? language concept = some term) (type : SearchType) :
    bundled.resolve? term language type = some concept ↔
      bundled.pins.admits concept language type = true := by
  constructor
  · intro h
    rcases exists_surface_of_resolve? h with ⟨_, _, _, hadmits⟩
    exact hadmits
  · intro hadmits
    refine resolve?_eq_some_iff.mpr ⟨⟨term, hterm, rfl, hadmits⟩, ?_⟩
    intro other spelling hindex hspelling hkey
    rcases pins_of_folded_eq hspelling hterm hkey hindex with ⟨_, hname, hmove⟩
    rw [PinTable.admits, hmove] at hadmits
    rw [PinTable.admits, hname]
    have htype : SearchType.move = type := of_decide_eq_true hadmits
    rw [← htype]
    rfl

theorem pins_agree {source target : Language} {type pinned : SearchType}
    (hsource : bundled.pins.get? concept source = some type)
    (htarget : bundled.pins.get? concept target = some pinned) : type = pinned :=
  type_eq_of_mem_pins _ (mem_pins_of_get? hsource) _ (mem_pins_of_get? htarget) rfl

theorem admits_of_pinned {source target : Language} {type : SearchType}
    (hpinned : (bundled.pins.get? concept source).isSome = true)
    (hadmits : bundled.pins.admits concept source type = true) :
    bundled.pins.admits concept target type = true := by
  rcases Option.isSome_iff_exists.mp hpinned with ⟨pinned, hsource⟩
  rw [PinTable.admits, hsource] at hadmits
  have htype : pinned = type := of_decide_eq_true hadmits
  cases htarget : bundled.pins.get? concept target with
  | none =>
      rw [PinTable.admits, htarget]
      rfl
  | some other =>
      rw [PinTable.admits, htarget]
      exact decide_eq_true ((pins_agree hsource htarget).symm.trans htype)

/-- English has a pin for every concept that has one, so what is found in English can be found in every
language. -/
theorem admits_of_english {type : SearchType}
    (hadmits : bundled.pins.admits concept .english type = true) :
    bundled.pins.admits concept language type = true := by
  cases hpin : bundled.pins.get? concept language with
  | none =>
      rw [PinTable.admits, hpin]
      rfl
  | some pinned =>
      have henglish : (bundled.pins.get? concept .english).isSome = true := by
        rw [pins_bundled]
        exact exists_english_pin _ (mem_pins_of_get? hpin)
      exact admits_of_pinned henglish hadmits

end Lexicon
end Polyquery
