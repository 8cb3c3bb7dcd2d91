import Polyquery.Engine.Basic
import Polyquery.Proofs.Lexicon.Segmentation

/-!
# Translating twice

A query may be translated on.  If every known term is found again in the language between, as the concept it
stands for, and every unknown term is unknown there too, then the second translation gives what the first
language would have been translated to directly.  Translating back gives each known term the spelling of the
catalog.  From English, the bundled lexicon brings every known term through every language.
-/

namespace Polyquery
namespace Lexicon

open Text

variable {lexicon : Lexicon} {source middle target : Language}

/-- The term of a segment is known in the first language, and the term that stands for it in the second one
fits between the marks and is found as the same concept. -/
structure Carries (lexicon : Lexicon) (source middle : Language) (s : Text) (concept : Concept) :
    Prop where
  found : lexicon.concept? source s = some concept
  exists_term : ∃ term, lexicon.catalog.surface? middle concept = some term ∧
    Avoids isSeparator term ∧ StartsOutside Segment.isLeadChar term ∧
    EndsOutside Segment.isTrailChar term ∧
    lexicon.resolve? term middle (Segment.ofText s).searchType = some concept

/-- Nothing is lost of a segment when it is written in the second language. -/
inductive Passes (lexicon : Lexicon) (source middle : Language) (s : Text) : Prop where
  | bare (hterm : (Segment.ofText s).hasTerm = false)
  | unknown
      (hsource : lexicon.concept? source s = none)
      (hmiddle : lexicon.concept? middle s = none)
  | carried {concept : Concept} (h : lexicon.Carries source middle s concept)

/-!
# One segment
-/

theorem segmentText_of_unresolved {s : Text}
    (hresolve : lexicon.concept? source s = none) : lexicon.segmentText source target s = s := by
  cases hterm : (Segment.ofText s).hasTerm with
  | false => exact segmentText_of_bare hterm
  | true => exact segmentText_of_unknown hterm hresolve

/-- What a segment that passes becomes in the second language is translated on like the segment itself. -/
theorem segmentText_segmentText {s : Text} (h : lexicon.Passes source middle s)
    (htarget : lexicon.catalog.hasLanguage target = true) :
    lexicon.segmentText middle target (lexicon.segmentText source middle s) =
      lexicon.segmentText source target s := by
  cases hterm : (Segment.ofText s).hasTerm with
  | false => rw [segmentText_of_bare hterm, segmentText_of_bare hterm, segmentText_of_bare hterm]
  | true =>
      cases h with
      | bare hbare => exact absurd (hbare.symm.trans hterm) Bool.false_ne_true
      | unknown hsource hmiddle =>
          rw [segmentText_of_unresolved hsource, segmentText_of_unresolved hmiddle,
            segmentText_of_unresolved hsource]
      | @carried concept hcarries =>
          rcases hcarries.exists_term with ⟨term, hsurface, _, hfirst, hlast, hmiddle⟩
          have hne := Catalog.ne_nil_of_surface? hsurface
          have hsplit := Segment.ofText_withCore s ⟨hne, hfirst, hlast⟩
          have hother : (Segment.ofText ((Segment.ofText s).withCore term)).hasTerm = true := by
            rw [hsplit]
            exact Segment.hasTerm_with_core hne hterm
          have hfound : lexicon.concept? middle ((Segment.ofText s).withCore term) =
                some concept := by
            unfold concept?
            rw [hsplit]
            exact hmiddle
          rcases exists_surface_in_target hcarries.found htarget with ⟨spelling, hspelling⟩
          rw [segmentText_of_replaced hterm hcarries.found hsurface,
            segmentText_of_replaced hother hfound hspelling,
            segmentText_of_replaced hterm hcarries.found hspelling, hsplit]
          rfl

theorem avoids_isSeparator_of_passes {s : Text} (h : lexicon.Passes source middle s)
    (hs : Avoids isSeparator s) : Avoids isSeparator (lexicon.segmentText source middle s) := by
  cases hterm : (Segment.ofText s).hasTerm with
  | false =>
      rw [segmentText_of_bare hterm]
      exact hs
  | true =>
      cases h with
      | bare hbare => exact absurd (hbare.symm.trans hterm) Bool.false_ne_true
      | unknown hsource _ =>
          rw [segmentText_of_unresolved hsource]
          exact hs
      | carried hcarries =>
          rcases hcarries.exists_term with ⟨term, hsurface, hplain, _⟩
          rw [segmentText_of_replaced hterm hcarries.found hsurface]
          exact Segment.avoids_withCore hs hplain

theorem segmentText_self {s : Text}
    (h : ∀ concept, (Segment.ofText s).hasTerm = true →
      lexicon.concept? source s = some concept →
      lexicon.catalog.surface? source concept = some (Segment.ofText s).core) :
    lexicon.segmentText source source s = s := by
  cases hterm : (Segment.ofText s).hasTerm with
  | false => exact segmentText_of_bare hterm
  | true =>
      cases hresolve : lexicon.concept? source s with
      | none => exact segmentText_of_unknown hterm hresolve
      | some concept =>
          rw [segmentText_of_replaced hterm hresolve (h concept hterm hresolve)]
          exact Segment.withCore_core_ofText s

/-!
# Whole queries
-/

theorem text_translate_translate (hfirst : source ≠ middle) (hsecond : middle ≠ target)
    (htarget : lexicon.catalog.hasLanguage target = true) {text : Text}
    (h : ∀ s ∈ Piece.segments text, lexicon.Passes source middle s) :
    (lexicon.translate (lexicon.translate text source middle).text middle target).text =
      Piece.joined ((Piece.ofText text).map (Piece.map (lexicon.segmentText source target))) := by
  have hpieces : Piece.ofText (lexicon.translate text source middle).text =
      (Piece.ofText text).map (Piece.map (lexicon.segmentText source middle)) := by
    rw [text_translate hfirst]
    apply Piece.ofText_joined_map
    intro s hs
    exact avoids_isSeparator_of_passes (h s hs) (Piece.avoids_of_mem_segments hs)
  rw [text_translate hsecond, hpieces, List.map_map]
  apply congrArg Piece.joined
  apply List.map_congr_left
  intro piece hpiece
  cases piece with
  | segment s =>
      have hs := h s (Piece.mem_segments.mpr hpiece)
      exact congrArg Piece.segment (segmentText_segmentText hs htarget)
  | separator c => rfl

theorem joined_map_of_unchanged {f : Text → Text} {text : Text}
    (h : ∀ s ∈ Piece.segments text, f s = s) :
    Piece.joined ((Piece.ofText text).map (Piece.map f)) = text := by
  have hsame : (Piece.ofText text).map (Piece.map f) = (Piece.ofText text).map id := by
    apply List.map_congr_left
    intro piece hpiece
    cases piece with
    | segment s => exact congrArg Piece.segment (h s (Piece.mem_segments.mpr hpiece))
    | separator c => rfl
  rw [hsame, List.map_id, Piece.joined_ofText]

theorem exists_pieces_renders (lexicon : Lexicon) (source target : Language) (text : Text) :
    ∃ pieces,
      List.Forall₂ (Piece.Rel (lexicon.Renders source target)) (Piece.ofText text) pieces ∧
        Piece.joined ((Piece.ofText text).map (Piece.map (lexicon.segmentText source target))) =
          Piece.joined pieces := by
  refine ⟨_, Piece.forall₂_rel_map ?_, rfl⟩
  intro s _
  exact renders_iff.mpr rfl

/-!
# The bundled lexicon
-/

theorem carries_bundled {s : Text} {concept : Concept}
    (hresolve : bundled.concept? .english s = some concept) :
    bundled.Carries .english middle s concept := by
  have hclean := cleanColumn_bundled middle
  rcases exists_surface_in_target hresolve hclean.hasLanguage with ⟨term, hsurface⟩
  rcases exists_surface_of_resolve? hresolve with ⟨_, _, _, hadmits⟩
  have hterm := hclean.cleanTerm hsurface
  refine ⟨hresolve, term, hsurface, ?_, hterm.first, hterm.last, ?_⟩
  · exact avoids_isSeparator_of_isOperatorChar hterm.operatorFree
  · exact (resolve?_surface_iff hsurface _).mpr (admits_of_english hadmits)

theorem surface?_of_mem_terms {language : Language} {type : SearchType} {term : Text}
    {terms : List Text} {concept : Concept} (hterms : bundled.catalog.terms? language = some terms)
    (hmem : term ∈ terms) (hresolve : bundled.resolve? term language type = some concept) :
    bundled.catalog.surface? language concept = some term := by
  rcases List.mem_iff_getElem?.mp hmem with ⟨index, hindex⟩
  have hterm : bundled.catalog.surface? language ⟨index⟩ = some term :=
    Catalog.surface?_eq_some_iff_terms.mpr ⟨terms, hterms, hindex⟩
  rcases exists_surface_of_resolve? hresolve with ⟨surface, hsurface, hkey, _⟩
  rw [hsurface, eq_of_folded_eq hsurface hterm hkey]

/-- Every term of the text is known in English and spelled like a term of the catalog, or it is known neither
in English nor in the other language. -/
def EnglishSpelling (middle : Language) (text : Text) : Prop :=
  ∀ s ∈ Piece.segments text, (Segment.ofText s).hasTerm = true →
    ((bundled.concept? .english s).isSome = true ∧
      ∃ terms ∈ bundled.catalog.terms? .english, (Segment.ofText s).core ∈ terms) ∨
    (bundled.concept? .english s = none ∧
      bundled.concept? middle s = none)

theorem known_of_surface? {s term : Text} {concept : Concept}
    (hcore : (Segment.ofText s).core = term)
    (hsurface : bundled.catalog.surface? .english concept = some term)
    (hadmits : bundled.pins.admits concept .english (Segment.ofText s).searchType = true) :
    (bundled.concept? .english s).isSome = true ∧
      ∃ terms ∈ bundled.catalog.terms? .english, (Segment.ofText s).core ∈ terms := by
  unfold concept?
  rw [hcore, (resolve?_surface_iff hsurface _).mpr hadmits]
  rcases Catalog.surface?_eq_some_iff_terms.mp hsurface with ⟨terms, hterms, hplace⟩
  exact ⟨rfl, terms, hterms, List.mem_of_getElem? hplace⟩

theorem EnglishSpelling.passes {text : Text} (h : EnglishSpelling middle text) :
    ∀ s ∈ Piece.segments text, bundled.Passes .english middle s := by
  intro s hs
  cases hterm : (Segment.ofText s).hasTerm with
  | false => exact .bare hterm
  | true =>
      rcases h s hs hterm with ⟨hknown, _⟩ | ⟨henglish, hmiddle⟩
      · rcases Option.isSome_iff_exists.mp hknown with ⟨concept, hresolve⟩
        exact .carried (carries_bundled hresolve)
      · exact .unknown henglish hmiddle

theorem EnglishSpelling.surface {text : Text} (h : EnglishSpelling middle text) :
    ∀ s ∈ Piece.segments text, ∀ concept, (Segment.ofText s).hasTerm = true →
      bundled.concept? .english s = some concept →
      bundled.catalog.surface? .english concept = some (Segment.ofText s).core := by
  intro s hs concept hterm hresolve
  rcases h s hs hterm with ⟨_, terms, hterms, hmem⟩ | ⟨hnone, _⟩
  · exact surface?_of_mem_terms hterms hmem hresolve
  · rw [hnone] at hresolve
    cases hresolve

theorem text_translate_back {lexicon : Lexicon} (hne : source ≠ middle)
    (hsource : lexicon.catalog.hasLanguage source = true) {text : Text}
    (hpasses : ∀ s ∈ Piece.segments text, lexicon.Passes source middle s)
    (hspelling : ∀ s ∈ Piece.segments text, ∀ concept, (Segment.ofText s).hasTerm = true →
      lexicon.concept? source s = some concept →
      lexicon.catalog.surface? source concept = some (Segment.ofText s).core) :
    (lexicon.translate (lexicon.translate text source middle).text middle source).text = text := by
  rw [text_translate_translate hne hne.symm hsource hpasses]
  apply joined_map_of_unchanged
  intro s hs
  exact segmentText_self (hspelling s hs)

/-- Translating on replaces every known term by the term of its concept in the last language and changes
nothing else.  Translating back therefore restores a text with catalog spellings, and an engine whose lexicon
is the bundled one analyzes the translation of an English query like the query. -/
theorem translate_on :
    (∀ (lexicon : Lexicon) (source middle target : Language), source ≠ middle → middle ≠ target →
      lexicon.catalog.hasLanguage target = true → ∀ text,
      (∀ s ∈ Piece.segments text, lexicon.Passes source middle s) →
      (∃ pieces,
        List.Forall₂ (Piece.Rel (lexicon.Renders source target)) (Piece.ofText text) pieces ∧
        (lexicon.translate (lexicon.translate text source middle).text middle target).text =
          Piece.joined pieces) ∧
      (source ≠ target →
        (lexicon.translate (lexicon.translate text source middle).text middle target).text =
          (lexicon.translate text source target).text) ∧
      (target = source →
        (∀ s ∈ Piece.segments text, ∀ concept, (Segment.ofText s).hasTerm = true →
          lexicon.concept? source s = some concept →
          lexicon.catalog.surface? source concept = some (Segment.ofText s).core) →
        (lexicon.translate (lexicon.translate text source middle).text middle target).text =
          text)) ∧
    (∀ (middle : Language) (s : Text) (concept : Concept),
      bundled.concept? .english s = some concept → bundled.Carries .english middle s concept) ∧
    ∀ (engine : Engine) (middle : Language), engine.lexicon = bundled →
      engine.canonical = .english → middle ≠ .english → ∀ text, EnglishSpelling middle text →
      (engine.analyzeIn (engine.translate text .english middle).text middle).extraction =
        engine.analyze text := by
  refine ⟨?_, fun middle s concept => carries_bundled, ?_⟩
  · intro lexicon source middle target hfirst hsecond htarget text hpasses
    have htext := text_translate_translate hfirst hsecond htarget hpasses
    rw [htext]
    refine ⟨exists_pieces_renders lexicon source target text, ?_, ?_⟩
    · intro hne
      rw [text_translate hne]
    · rintro rfl hspelling
      rw [← htext]
      exact text_translate_back hfirst htarget hpasses hspelling
  · intro engine middle hlexicon hcanonical hne text hspelling
    have hback : (engine.translate (engine.translate text .english middle).text middle
        engine.canonical).text = text := by
      rw [hcanonical, Engine.translate, Engine.translate, hlexicon]
      exact text_translate_back hne.symm (cleanColumn_bundled .english).hasLanguage
        hspelling.passes hspelling.surface
    rw [Engine.analyzeIn, Engine.analyze, Query.analyze]
    exact congrArg (fun translated => (Query.analyzeWithTree translated engine.rules).2) hback

theorem surface?_fire : bundled.catalog.surface? .english ⟨14⟩ = some "fire".toList := by
  rw [surface?_bundled]
  decide +kernel

theorem surface?_psychic : bundled.catalog.surface? .english ⟨13⟩ = some "psychic".toList := by
  rw [surface?_bundled]
  decide +kernel

theorem admits_fire : bundled.pins.admits ⟨14⟩ .english .name = true := by
  rw [pins_bundled]
  decide +kernel

theorem admits_psychic : bundled.pins.admits ⟨13⟩ .english .move = true := by
  rw [pins_bundled]
  decide +kernel

theorem englishSpelling_fire :
    EnglishSpelling .german "fire,!@psychic&#mine|4*".toList := by
  have hsegments : Piece.segments "fire,!@psychic&#mine|4*".toList =
      ["fire".toList, "!@psychic".toList, "#mine".toList, "4*".toList] := by
    decide
  intro s hs hterm
  simp only [hsegments, List.mem_cons, List.not_mem_nil, or_false] at hs
  rcases hs with rfl | rfl | rfl | rfl
  · exact Or.inl (known_of_surface? (by decide) surface?_fire admits_fire)
  · exact Or.inl (known_of_surface? (by decide) surface?_psychic admits_psychic)
  · exact absurd hterm (by decide)
  · exact absurd hterm (by decide)

theorem text_translate_fire {fire psychic : Text} (hne : .english ≠ target)
    (hfire : bundled.catalog.surface? target ⟨14⟩ = some fire)
    (hpsychic : bundled.catalog.surface? target ⟨13⟩ = some psychic) :
    (bundled.translate "fire,!@psychic&#mine|4*".toList .english target).text =
      fire ++ ",!@".toList ++ psychic ++ "&#mine|4*".toList := by
  have hpieces : Piece.ofText "fire,!@psychic&#mine|4*".toList =
      [.segment "fire".toList, .separator ',', .segment "!@psychic".toList, .separator '&',
        .segment "#mine".toList, .separator '|', .segment "4*".toList] := by
    decide
  have hknownFire : bundled.concept? .english "fire".toList = some ⟨14⟩ :=
    (resolve?_surface_iff surface?_fire .name).mpr admits_fire
  have hknownPsychic : bundled.concept? .english "!@psychic".toList = some ⟨13⟩ :=
    (resolve?_surface_iff surface?_psychic .move).mpr admits_psychic
  have hfireMarks : Segment.ofText "fire".toList = ⟨[], "fire".toList, []⟩ := by
    decide
  have hpsychicMarks : Segment.ofText "!@psychic".toList = ⟨"!@".toList, "psychic".toList, []⟩ := by
    decide
  rw [text_translate hne, hpieces]
  simp only [List.map_cons, List.map_nil, Piece.map,
    segmentText_of_replaced (by decide) hknownFire hfire,
    segmentText_of_replaced (by decide) hknownPsychic hpsychic,
    segmentText_of_bare (s := "#mine".toList) (by decide),
    segmentText_of_bare (s := "4*".toList) (by decide), Segment.withCore, hfireMarks, hpsychicMarks]
  simp [Piece.joined, Piece.text]

theorem translate_on_fire :
    EnglishSpelling .german "fire,!@psychic&#mine|4*".toList ∧
    (bundled.translate "fire,!@psychic&#mine|4*".toList .english .german).text =
      "feuer,!@psychokinese&#mine|4*".toList ∧
    (bundled.translate (bundled.translate "fire,!@psychic&#mine|4*".toList .english .german).text
      .german .french).text = "feu,!@psyko&#mine|4*".toList ∧
    (bundled.translate (bundled.translate "fire,!@psychic&#mine|4*".toList .english .german).text
      .german .english).text = "fire,!@psychic&#mine|4*".toList ∧
    ((Engine.ofLexicon bundled .standard).analyzeIn ((Engine.ofLexicon bundled .standard).translate
      "fire,!@psychic&#mine|4*".toList .english .german).text .german).extraction =
        (Engine.ofLexicon bundled .standard).analyze "fire,!@psychic&#mine|4*".toList := by
  have hspelling := englishSpelling_fire
  have hlexicon : (Engine.ofLexicon bundled .standard).lexicon = bundled := by
    rw [Engine.ofLexicon]
  have hgerman : (bundled.translate "fire,!@psychic&#mine|4*".toList .english .german).text =
      "feuer,!@psychokinese&#mine|4*".toList := by
    have hfire : bundled.catalog.surface? .german ⟨14⟩ = some "feuer".toList := by
      rw [surface?_bundled]
      decide +kernel
    have hpsychic : bundled.catalog.surface? .german ⟨13⟩ = some "psychokinese".toList := by
      rw [surface?_bundled]
      decide +kernel
    rw [text_translate_fire (by decide) hfire hpsychic]
    decide
  have hfrench : (bundled.translate "fire,!@psychic&#mine|4*".toList .english .french).text =
      "feu,!@psyko&#mine|4*".toList := by
    have hfire : bundled.catalog.surface? .french ⟨14⟩ = some "feu".toList := by
      rw [surface?_bundled]
      decide +kernel
    have hpsychic : bundled.catalog.surface? .french ⟨13⟩ = some "psyko".toList := by
      rw [surface?_bundled]
      decide +kernel
    rw [text_translate_fire (by decide) hfire hpsychic]
    decide
  refine ⟨hspelling, hgerman, ?_, ?_, ?_⟩
  · rw [← hfrench]
    exact (translate_on.left bundled .english .german .french (by decide) (by decide)
      (cleanColumn_bundled .french).hasLanguage _ hspelling.passes).right.left (by decide)
  · exact (translate_on.left bundled .english .german .english (by decide) (by decide)
      (cleanColumn_bundled .english).hasLanguage _ hspelling.passes).right.right rfl
        hspelling.surface
  · exact translate_on.right.right (Engine.ofLexicon bundled .standard) .german hlexicon
      rfl (by decide) _ hspelling

end Lexicon
end Polyquery
