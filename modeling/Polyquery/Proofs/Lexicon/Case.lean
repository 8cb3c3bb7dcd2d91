import Polyquery.Proofs.Lexicon.Bundled
import Polyquery.Proofs.Text.UpperKey

/-!
# Case in look-ups

A term is looked up by its key.  Lower case keeps the key, so it is never noticed.  Upper case is not noticed by
any catalog exactly if it keeps the key: a catalog that has the term itself finds it in upper case by no other
means.  Of the bundled terms two Turkish ones, those with a dotless i, are lost in this way.
-/

namespace Polyquery

open Text Unicode

namespace Lexicon

variable {lexicon : Lexicon} {language : Language} {type : SearchType}

theorem resolve?_congr {term other : Text} (h : folded term = folded other) :
    lexicon.resolve? term language type = lexicon.resolve? other language type := by
  rw [resolve?, resolve?, h]

end Lexicon

/-!
# A catalog that has the term
-/

namespace Text

theorem upperChar_blanks : ∀ range ∈ blanks,
    ∀ code ∈ List.range' range.first (range.last + 1 - range.first),
      upperChar (Char.ofNat code) = [Char.ofNat code] := by
  decide +kernel

theorem upper_of_isBlankText {text : Text} (h : isBlankText text = true) : upper text = text := by
  have hself : ∀ c ∈ text, upperChar c = [c] := by
    intro c hc
    exact forall_covered (p := fun c => upperChar c = [c]) upperChar_blanks
      (isBlankText_iff.mp h c hc)
  exact (List.flatMap_congr hself).trans (List.flatMap_singleton' text)

end Text

namespace CatalogDocument

def spelled (term : Text) (language : Language) : CatalogDocument :=
  { languages := .ofList [(.canonical, [term]), (language, [term])], pins := [], warnings := [] }

theorem get?_spelled (term : Text) (language other : Language) :
    (spelled term language).languages.get? other =
      if other = language ∨ other = .canonical then some [term] else none := by
  simp only [spelled, LanguageMap.ofList, List.foldl_cons, List.foldl_nil, LanguageMap.get?_insert,
    LanguageMap.get?_empty, eq_comm (a := other)]
  by_cases hlanguage : language = other
  · simp [hlanguage]
  · simp [hlanguage]

theorem aligned_spelled {term : Text} (h : isBlankText term = false) (language : Language) :
    (spelled term language).Aligned 1 where
  columns := {
    canonical := by
      rw [get?_spelled, if_pos (Or.inr rfl)]
      rfl
    size_pos := Nat.one_pos
    sound := by
      intro other terms hterms
      rw [get?_spelled] at hterms
      split at hterms
      · cases hterms
        exact ⟨rfl, fun _ hmem => List.mem_singleton.mp hmem ▸ h⟩
      · cases hterms }
  pins := by
    intro pin hpin
    cases hpin

end CatalogDocument

namespace Lexicon

/-- What a lexicon finds does not depend on lower case.  A term is found in upper case as it is found as it
stands, in whichever lexicon, exactly if upper case keeps its key; and no language makes a difference. -/
theorem resolve?_ignores_case_iff (term : Text) :
    (∀ (lexicon : Lexicon) language type,
      lexicon.resolve? (lower term) language type = lexicon.resolve? term language type) ∧
    ∀ language type,
      (∀ (document : CatalogDocument) lexicon, document.toLexicon = .ok lexicon →
        lexicon.resolve? (upper term) language type = lexicon.resolve? term language type) ↔
      KeepsKey term := by
  refine ⟨fun _ _ _ => resolve?_congr (folded_lower term), ?_⟩
  intro language type
  rw [← folded_upper_iff]
  constructor
  · intro h
    cases hblank : isBlankText term with
    | true => rw [upper_of_isBlankText hblank]
    | false =>
        rcases CatalogDocument.toLexicon_of_aligned
          (CatalogDocument.aligned_spelled hblank language) with ⟨catalog, _, hloads⟩
        have hsurface := CatalogDocument.surface?_of_toLexicon hloads language ⟨0⟩
        rw [CatalogDocument.get?_spelled, if_pos (Or.inl rfl)] at hsurface
        rcases (holds_of_toLexicon hloads).resolve_surface term language type ⟨0⟩ hsurface rfl with
          ⟨found, hfound, _⟩
        rw [← h _ _ hloads] at hfound
        rcases exists_surface_of_resolve? hfound with ⟨surface, hother, hkey, _⟩
        rw [CatalogDocument.surface?_of_toLexicon hloads, CatalogDocument.get?_spelled,
          if_pos (Or.inl rfl)] at hother
        rw [← hkey, List.mem_singleton.mp (List.mem_of_getElem? hother)]
  · intro h document lexicon _
    exact resolve?_congr h

theorem resolve?_ignores_case_german :
    KeepsKey "glücks".toList ∧ upper "glücks".toList = "GLÜCKS".toList ∧
      bundled.resolve? "GLÜCKS".toList .german .name = some ⟨1⟩ := by
  have hkeeps : KeepsKey "glücks".toList := (folded_upper_iff _).mp (by decide +kernel)
  have hupper : upper "glücks".toList = "GLÜCKS".toList := by
    decide +kernel
  have hsurface : bundled.catalog.surface? .german ⟨1⟩ = some "glücks".toList := by
    rw [surface?_bundled]
    decide +kernel
  have hsame := ((resolve?_ignores_case_iff "glücks".toList).right .german .name).mpr hkeeps
    Bundled.document bundled toLexicon_bundled
  refine ⟨hkeeps, hupper, ?_⟩
  rw [← hupper, hsame, resolve?_surface_iff hsurface, pins_bundled]
  decide +kernel

/-- The capital of the dotless i is that of the dotted one as well, and it is looked up as the dotted one. -/
theorem resolve?_upper_dotless :
    Bundled.document.toLexicon = .ok bundled ∧
      bundled.resolve? "şanslı".toList .turkish .name = some ⟨1⟩ ∧
      upper "şanslı".toList = "ŞANSLI".toList ∧
      bundled.resolve? "ŞANSLI".toList .turkish .name = none := by
  refine ⟨toLexicon_bundled, ?_, by decide +kernel, ?_⟩
  · have hsurface : bundled.catalog.surface? .turkish ⟨1⟩ = some "şanslı".toList := by
      rw [surface?_bundled]
      decide +kernel
    rw [resolve?_surface_iff hsurface, pins_bundled]
    decide +kernel
  · have hkeys : ∀ terms ∈ Bundled.document.languages.get? .turkish,
        ∀ term ∈ terms, folded term ≠ folded "ŞANSLI".toList := by
      decide +kernel
    cases hfound : bundled.resolve? "ŞANSLI".toList .turkish .name with
    | none => rfl
    | some concept =>
        rcases exists_surface_of_resolve? hfound with ⟨surface, hsurface, hkey, _⟩
        rcases Catalog.surface?_eq_some_iff_terms.mp hsurface with ⟨terms, hterms, hplace⟩
        rw [terms?_bundled] at hterms
        exact absurd hkey (hkeys terms hterms surface (List.mem_of_getElem? hplace))

/-!
# The bundled terms
-/

theorem folded_upper_bundled : ∀ language ∈ Language.all,
    ∀ terms ∈ Bundled.document.languages.get? language, ∀ term ∈ terms,
      folded (upper term) = folded term ↔ term ∉ ["şanslı".toList, "arındırılmış".toList] := by
  rw [Bundled.languages_of_spelled (by repeat constructor)]
  decide +kernel

/-- Of the bundled terms, all but two are found in upper case as they are found as they stand. -/
theorem resolve?_upper_bundled {language : Language} {concept : Concept} {term : Text}
    (hterm : bundled.catalog.surface? language concept = some term)
    (hkept : term ∉ ["şanslı".toList, "arındırılmış".toList]) (type : SearchType) :
    bundled.resolve? (upper term) language type = bundled.resolve? term language type := by
  rcases Catalog.surface?_eq_some_iff_terms.mp hterm with ⟨terms, hterms, hplace⟩
  rw [terms?_bundled] at hterms
  exact resolve?_congr ((folded_upper_bundled language (Language.mem_all language) terms hterms term
    (List.mem_of_getElem? hplace)).mpr hkept)

end Lexicon
end Polyquery
