import Polyquery.Proofs.Lexicon.Segmentation

/-!
# Concepts in translations

A translated term is found in the target language under the marks of the term it stands for.  With the
bundled lexicon it is found as the same concept unless the target language keeps the concept for another
reading.  That happens to terms of a language that has no pin for the concept: `@psycho` is the type under a
move marker, and the English word for the type under that marker is the move.
-/

namespace Polyquery
namespace Lexicon

open Text

variable {lexicon : Lexicon} {source target : Language}

/-- Every term of the text that is known is the same concept in the translation of the text. -/
def KeepsConcepts (lexicon : Lexicon) (source target : Language) (text : Text) : Prop :=
  ∀ (index : Nat) (s : Text) (concept : Concept), (Piece.segments text)[index]? = some s →
    (Segment.ofText s).hasTerm = true →
    lexicon.concept? source s = some concept →
    ∃ t, (Piece.segments (lexicon.translate text source target).text)[index]? = some t ∧
      lexicon.concept? target t = some concept

theorem concept?_segmentText {s term : Text} {concept : Concept}
    (htarget : lexicon.CleanColumn target) (hterm : (Segment.ofText s).hasTerm = true)
    (hresolve : lexicon.concept? source s = some concept)
    (hsurface : lexicon.catalog.surface? target concept = some term) :
    lexicon.concept? target (lexicon.segmentText source target s) =
      lexicon.resolve? term target (Segment.ofText s).searchType := by
  unfold concept?
  rw [segmentText_of_replaced hterm hresolve hsurface,
    Segment.ofText_withCore s (htarget.fitsAsCore hsurface)]
  rfl

/-- A bundled translation keeps a concept exactly if the target language does not keep the concept for
another reading, and therefore whenever the source language has a pin for it. -/
theorem translate_keeps_concept_iff (hne : source ≠ target) {text s : Text} {index : Nat}
    (hs : (Piece.segments text)[index]? = some s) (hterm : (Segment.ofText s).hasTerm = true)
    {concept : Concept}
    (hresolve : bundled.concept? source s = some concept) :
    ∃ t, (Piece.segments (bundled.translate text source target).text)[index]? = some t ∧
      (bundled.concept? target t = some concept ↔
        ∀ pinned, bundled.pins.get? concept target = some pinned →
          pinned = (Segment.ofText s).searchType) ∧
      ((bundled.pins.get? concept source).isSome = true →
        bundled.concept? target t = some concept) := by
  have htarget := cleanColumn_bundled target
  rcases exists_surface_in_target hresolve htarget.hasLanguage with ⟨term, hsurface⟩
  have hlookup := concept?_segmentText htarget hterm hresolve hsurface
  have hfound := resolve?_surface_iff hsurface (Segment.ofText s).searchType
  refine ⟨bundled.segmentText source target s, ?_, ?_, ?_⟩
  · rw [segments_translate hne htarget, List.getElem?_map, hs]
    rfl
  · rw [hlookup, hfound, admits_iff]
  · intro hpinned
    rcases exists_surface_of_resolve? hresolve with ⟨_, _, _, hadmits⟩
    rw [hlookup, hfound]
    exact admits_of_pinned hpinned hadmits

theorem surface?_psycho : bundled.catalog.surface? .german ⟨12⟩ = some "psycho".toList := by
  rw [surface?_bundled]
  decide +kernel

theorem resolve?_psycho (type : SearchType) :
    bundled.resolve? "psycho".toList .german type = some ⟨12⟩ := by
  rw [resolve?_surface_iff surface?_psycho, pins_bundled, admits_iff]
  have hpin : Bundled.document.pinTable.get? ⟨12⟩ .german = none := by
    decide +kernel
  intro pinned hpinned
  rw [hpin] at hpinned
  cases hpinned

theorem translate_keeps_concept_psycho :
    Language.german ≠ .english ∧
    (Piece.segments "!psycho,@feuer".toList)[0]? = some "!psycho".toList ∧
    (Segment.ofText "!psycho".toList).hasTerm = true ∧
    bundled.concept? .german "!psycho".toList = some ⟨12⟩ ∧
    ∃ t, (Piece.segments (bundled.translate "!psycho,@feuer".toList .german .english).text)[0]? =
        some t ∧
      (bundled.concept? .english t = some ⟨12⟩ ↔
        ∀ pinned, bundled.pins.get? ⟨12⟩ .english = some pinned →
          pinned = (Segment.ofText "!psycho".toList).searchType) ∧
      ((bundled.pins.get? ⟨12⟩ .german).isSome = true →
        bundled.concept? .english t = some ⟨12⟩) := by
  have hcore : (Segment.ofText "!psycho".toList).core = "psycho".toList := by
    decide
  have hresolve : bundled.concept? .german "!psycho".toList = some ⟨12⟩ := by
    unfold concept?
    rw [hcore]
    exact resolve?_psycho _
  exact ⟨by decide, by decide, by decide, hresolve,
    translate_keeps_concept_iff (by decide) (by decide) (by decide) hresolve⟩

/-- German spells the type and the move apart and pins neither; in English they have one name.  So the type
under a move marker becomes the move. -/
theorem not_keepsConcepts_psycho : ¬bundled.KeepsConcepts .german .english "@psycho".toList := by
  intro hkeeps
  have hsurface : bundled.catalog.surface? .english ⟨12⟩ = some "psychic".toList := by
    rw [surface?_bundled]
    decide +kernel
  have hpin : bundled.pins.get? ⟨12⟩ .english = some .name := by
    rw [pins_bundled]
    decide +kernel
  have hcore : (Segment.ofText "@psycho".toList).core = "psycho".toList := by
    decide
  have hterm : (Segment.ofText "@psycho".toList).hasTerm = true := by
    decide
  have hresolve : bundled.concept? .german "@psycho".toList = some ⟨12⟩ := by
    unfold concept?
    rw [hcore]
    exact resolve?_psycho _
  have hsegments : Piece.segments "@psycho".toList = ["@psycho".toList] := by
    decide
  have hclean := cleanColumn_bundled .english
  rcases hkeeps 0 "@psycho".toList ⟨12⟩ (by rw [hsegments]; rfl) hterm hresolve with
    ⟨t, ht, hsame⟩
  rw [segments_translate (by decide) hclean, hsegments, List.map_singleton,
    List.getElem?_cons_zero, Option.some_inj] at ht
  rw [← ht, concept?_segmentText hclean hterm hresolve hsurface, resolve?_surface_iff hsurface,
    admits_iff] at hsame
  exact absurd (hsame .name hpin) (by decide)

end Lexicon
end Polyquery
