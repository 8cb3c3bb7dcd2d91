import Polyquery.Lexicon.Basic

/-!
# Look-ups

A look-up gives a concept whose term in the language has the search key of the term that was asked for,
and which may be read in the way that was asked for.  The columns of a catalog have the same length, so a
concept that is found in one language has a term in every other language of the catalog.
-/

namespace Polyquery
namespace Catalog

variable {catalog : Catalog} {language : Language} {concept : Concept}

theorem surface?_eq_some_iff {term : Text} :
    catalog.surface? language concept = some term ↔
      ∃ column, catalog.columns.get? language = some column ∧
        column.surface[concept.index]? = some term :=
  Option.bind_eq_some_iff

theorem surface?_eq_some_iff_terms {term : Text} :
    catalog.surface? language concept = some term ↔
      ∃ terms, catalog.terms? language = some terms ∧ terms[concept.index]? = some term := by
  rw [surface?_eq_some_iff, terms?]
  cases catalog.columns.get? language with
  | none => simp
  | some column => simp

theorem index_lt_size_of_surface? {term : Text}
    (h : catalog.surface? language concept = some term) : concept.index < catalog.size := by
  rcases surface?_eq_some_iff.mp h with ⟨column, hcolumn, hterm⟩
  rw [← catalog.aligned language column hcolumn]
  exact (List.getElem?_eq_some_iff.mp hterm).choose

theorem exists_surface? (hlanguage : catalog.hasLanguage language = true)
    (hconcept : concept.index < catalog.size) :
    ∃ term, catalog.surface? language concept = some term := by
  rcases Option.isSome_iff_exists.mp hlanguage with ⟨column, hcolumn⟩
  have hbound : concept.index < column.surface.length := by
    rw [catalog.aligned language column hcolumn]
    exact hconcept
  refine ⟨column.surface[concept.index], surface?_eq_some_iff.mpr ⟨column, hcolumn, ?_⟩⟩
  exact List.getElem?_eq_getElem hbound

theorem mem_of_surface? {term : Text} {terms : List Text}
    (hterms : catalog.terms? language = some terms)
    (h : catalog.surface? language concept = some term) : term ∈ terms := by
  rcases surface?_eq_some_iff_terms.mp h with ⟨others, hothers, hterm⟩
  cases hterms.symm.trans hothers
  exact List.mem_of_getElem? hterm

theorem isBlankText_of_surface? {term : Text}
    (h : catalog.surface? language concept = some term) : Text.isBlankText term = false := by
  rcases surface?_eq_some_iff.mp h with ⟨column, hcolumn, hterm⟩
  exact catalog.nonblank language column hcolumn term (List.mem_of_getElem? hterm)

theorem ne_nil_of_surface? {term : Text}
    (h : catalog.surface? language concept = some term) : term ≠ [] := by
  rintro rfl
  exact absurd (isBlankText_of_surface? h).symm Bool.false_ne_true

theorem mem_candidates {key : Text} :
    concept ∈ catalog.candidates language key ↔
      ∃ term, catalog.surface? language concept = some term ∧ Text.folded term = key := by
  rw [candidates, surface?]
  cases catalog.columns.get? language with
  | none => simp
  | some column =>
      rcases concept with ⟨index⟩
      simp [column.folded_eq, List.mk_mem_zipIdx_iff_getElem?]

theorem pairwise_candidates (catalog : Catalog) (language : Language) (key : Text) :
    (catalog.candidates language key).Pairwise fun a b => a.index < b.index := by
  unfold candidates
  cases catalog.columns.get? language with
  | none => exact List.Pairwise.nil
  | some column =>
      have hplaces : (column.folded.zipIdx.map Prod.snd).Pairwise (fun a b => a < b) := by
        rw [List.zipIdx_map_snd]
        exact List.pairwise_lt_range'
      rw [List.pairwise_map]
      exact (List.pairwise_map.mp hplaces).filter _

end Catalog

namespace Lexicon

variable {lexicon : Lexicon} {language : Language} {type : SearchType} {concept : Concept}

theorem admits_iff {table : PinTable} :
    table.admits concept language type = true ↔
      ∀ pinned, table.get? concept language = some pinned → pinned = type := by
  simp [PinTable.admits, Option.all_eq_true]

theorem exists_surface_of_resolveKey? {key : Text}
    (h : lexicon.resolveKey? key language type = some concept) :
    ∃ surface, lexicon.catalog.surface? language concept = some surface ∧
      Text.folded surface = key ∧ lexicon.pins.admits concept language type = true := by
  have hadmits := List.find?_some h
  have hmem := List.mem_of_find?_eq_some h
  rcases Catalog.mem_candidates.mp hmem with ⟨surface, hsurface, hkey⟩
  exact ⟨surface, hsurface, hkey, hadmits⟩

theorem exists_surface_of_resolve? {term : Text}
    (h : lexicon.resolve? term language type = some concept) :
    ∃ surface, lexicon.catalog.surface? language concept = some surface ∧
      Text.folded surface = Text.folded term ∧
      lexicon.pins.admits concept language type = true :=
  exists_surface_of_resolveKey? h

/-- The first of several concepts with one key is found, apart from those whose pins forbid the reading. -/
theorem resolveKey?_eq_some_iff {key : Text} :
    lexicon.resolveKey? key language type = some concept ↔
      (∃ surface, lexicon.catalog.surface? language concept = some surface ∧
        Text.folded surface = key ∧ lexicon.pins.admits concept language type = true) ∧
      ∀ other surface, other.index < concept.index →
        lexicon.catalog.surface? language other = some surface →
        Text.folded surface = key →
        lexicon.pins.admits other language type = false := by
  have hsorted := lexicon.catalog.pairwise_candidates language key
  constructor
  · intro h
    refine ⟨exists_surface_of_resolveKey? h, ?_⟩
    intro other surface hindex hsurface hkey
    rcases List.find?_eq_some_iff_append.mp h with ⟨_, before, after, hsplit, hbefore⟩
    have hmem : other ∈ lexicon.catalog.candidates language key :=
      Catalog.mem_candidates.mpr ⟨surface, hsurface, hkey⟩
    rw [hsplit] at hmem hsorted
    rcases List.mem_append.mp hmem with hother | hother
    · simpa using hbefore other hother
    · -- whatever is listed from the concept on has no smaller place
      have hlater := (List.pairwise_cons.mp (List.pairwise_append.mp hsorted).right.left).left
      rcases List.mem_cons.mp hother with rfl | hother
      · exact absurd hindex (Nat.lt_irrefl _)
      · exact absurd hindex (Nat.lt_asymm (hlater other hother))
  · rintro ⟨⟨surface, hsurface, hkey, hadmits⟩, hfirst⟩
    have hmem : concept ∈ lexicon.catalog.candidates language key :=
      Catalog.mem_candidates.mpr ⟨surface, hsurface, hkey⟩
    rcases List.append_of_mem hmem with ⟨before, after, hsplit⟩
    refine List.find?_eq_some_iff_append.mpr ⟨hadmits, before, after, hsplit, ?_⟩
    intro other hother
    have hindex : other.index < concept.index := by
      rw [hsplit] at hsorted
      exact (List.pairwise_append.mp hsorted).right.right other hother concept List.mem_cons_self
    have hcandidate : other ∈ lexicon.catalog.candidates language key := by
      rw [hsplit]
      exact List.mem_append_left _ hother
    rcases Catalog.mem_candidates.mp hcandidate with ⟨spelling, hspelling, hsame⟩
    rw [hfirst other spelling hindex hspelling hsame]
    rfl

theorem resolve?_eq_some_iff {term : Text} :
    lexicon.resolve? term language type = some concept ↔
      (∃ surface, lexicon.catalog.surface? language concept = some surface ∧
        Text.folded surface = Text.folded term ∧
        lexicon.pins.admits concept language type = true) ∧
      ∀ other surface, other.index < concept.index →
        lexicon.catalog.surface? language other = some surface →
        Text.folded surface = Text.folded term →
        lexicon.pins.admits other language type = false :=
  resolveKey?_eq_some_iff

theorem exists_surface_in_target {term : Text} {target : Language}
    (h : lexicon.resolve? term language type = some concept)
    (htarget : lexicon.catalog.hasLanguage target = true) :
    ∃ surface, lexicon.catalog.surface? target concept = some surface := by
  rcases exists_surface_of_resolve? h with ⟨surface, hsurface, _, _⟩
  exact Catalog.exists_surface? htarget (Catalog.index_lt_size_of_surface? hsurface)

end Lexicon
end Polyquery
