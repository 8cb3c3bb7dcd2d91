import Polyquery.Lexicon.Detection
import Polyquery.Proofs.Lexicon.Segmentation

/-!
# Detection and translation

The detector asks all languages about one segment after the other and forgets a language at the first term
it does not know.  The translator asks one language about all segments and reports the terms it does not
know.  Both come to the same answer: a language is detected if and only if a translation from it reports no
unknown term.
-/

namespace Polyquery
namespace Lexicon

open Text

variable {lexicon : Lexicon} {language source target : Language}

/-- The term of the segment, if it has one, names a concept in the language. -/
def Knows (lexicon : Lexicon) (language : Language) (s : Text) : Prop :=
  (Segment.ofText s).hasTerm = true → (lexicon.concept? language s).isSome = true

/-!
# Narrowing
-/

theorem has_narrow {languages : LanguageSet} {s : Text} :
    (lexicon.narrow languages s).has language = true ↔
      languages.has language = true ∧ lexicon.Knows language s := by
  rw [narrow, Knows]
  cases hterm : (Segment.ofText s).hasTerm with
  | false => simp
  | true =>
      rw [if_pos rfl, LanguageSet.has_inter, Bool.and_eq_true, LanguageSet.has_ofList,
        List.mem_filter, LanguageSet.mem_toList]
      constructor
      · intro h
        rcases h with ⟨hlanguage, _, hknown⟩
        exact ⟨hlanguage, fun _ => hknown⟩
      · intro h
        rcases h with ⟨hlanguage, hknown⟩
        exact ⟨hlanguage, hlanguage, hknown rfl⟩

/-- Segments that are not read any more cannot bring a language back. -/
theorem has_narrowAll {languages : LanguageSet} {segments : List Text} :
    (lexicon.narrowAll languages segments).has language = true ↔
      languages.has language = true ∧ ∀ s ∈ segments, lexicon.Knows language s := by
  induction segments generalizing languages with
  | nil => simp [narrowAll]
  | cons s rest ih =>
      have hfirst : (lexicon.narrow languages s).has language = true ↔
          languages.has language = true ∧ lexicon.Knows language s := has_narrow
      rw [narrowAll]
      cases hempty : (lexicon.narrow languages s).isEmpty with
      | true =>
          have hnone := LanguageSet.has_of_isEmpty hempty language
          rw [if_pos rfl, hnone]
          constructor
          · intro h
            cases h
          · intro h
            rcases h with ⟨hlanguage, hall⟩
            rw [← hnone]
            exact hfirst.mpr ⟨hlanguage, hall s List.mem_cons_self⟩
      | false =>
          rw [if_neg Bool.false_ne_true, ih, hfirst, List.forall_mem_cons, and_assoc]

theorem has_detect {text : Text} :
    (lexicon.detect text).has language = true ↔
      lexicon.catalog.hasLanguage language = true ∧
        ∀ s ∈ Piece.segments text, lexicon.Knows language s := by
  rw [detect, has_narrowAll, Catalog.languages, LanguageMap.has_languages, Catalog.hasLanguage]

theorem detect_append_separator {c : Char} (hc : isSeparator c = true) (left right : Text) :
    lexicon.detect (left ++ c :: right) = (lexicon.detect left).inter (lexicon.detect right) := by
  apply LanguageSet.eq_of_has
  intro language
  rw [Bool.eq_iff_iff, LanguageSet.has_inter, Bool.and_eq_true, has_detect, has_detect, has_detect,
    Piece.segments_append_separator hc, List.forall_mem_append]
  tauto

theorem detect_eq_of_segments {left right : Text}
    (h : ∀ s, s ∈ Piece.segments left ↔ s ∈ Piece.segments right) :
    lexicon.detect left = lexicon.detect right := by
  apply LanguageSet.eq_of_has
  intro language
  rw [Bool.eq_iff_iff, has_detect, has_detect]
  simp only [h]

/-!
# Unknown terms
-/

theorem diagnostic?_renderSegment {s : Text} {diagnostic : Diagnostic} :
    (lexicon.renderSegment source target s).diagnostic? = some diagnostic ↔
      ((Segment.ofText s).hasTerm = true ∧ lexicon.concept? source s = none) ∧
        .unresolved (Segment.ofText s).core (Segment.ofText s).searchType = diagnostic := by
  rw [renderSegment, concept?]
  cases hterm : (Segment.ofText s).hasTerm with
  | false => simp [Rendering.diagnostic?]
  | true =>
      cases hresolve : lexicon.resolve? (Segment.ofText s).core source
          (Segment.ofText s).searchType with
      | none => simp [Rendering.diagnostic?]
      | some concept =>
          cases hsurface : lexicon.catalog.surface? target concept with
          | none => simp [Rendering.diagnostic?, hsurface]
          | some term => simp [Rendering.diagnostic?, hsurface]

theorem unresolved_mem_diagnostics (hne : source ≠ target) {text term : Text} {type : SearchType} :
    .unresolved term type ∈ (lexicon.translate text source target).diagnostics ↔
      ∃ s ∈ Piece.segments text,
        ((Segment.ofText s).hasTerm = true ∧ lexicon.concept? source s = none) ∧
          (Segment.ofText s).core = term ∧ (Segment.ofText s).searchType = type := by
  rw [translate_of_ne hne, List.mem_append, List.mem_filterMap]
  simp only [List.mem_map, reduceCtorEq, and_false, exists_false, false_or,
    exists_exists_and_eq_and, diagnostic?_renderSegment, Diagnostic.unresolved.injEq]

theorem knows_iff {s : Text} :
    lexicon.Knows language s ↔
      ¬((Segment.ofText s).hasTerm = true ∧ lexicon.concept? language s = none) := by
  rw [Knows, Option.isSome_iff_ne_none, not_and]

/-- A language is detected exactly when a translation from it leaves no term unresolved, and the languages of
a query depend on its set of segments only. -/
theorem detect_agrees_with_translate (lexicon : Lexicon) :
    (∀ text language, (lexicon.detect text).has language = true →
      lexicon.catalog.hasLanguage language = true) ∧
    (∀ text source target, lexicon.catalog.hasLanguage source = true → target ≠ source →
      ((lexicon.detect text).has source = true ↔
        ∀ term type,
          .unresolved term type ∉ (lexicon.translate text source target).diagnostics)) ∧
    (∀ left right c, isSeparator c = true →
      lexicon.detect (left ++ c :: right) = (lexicon.detect left).inter (lexicon.detect right)) ∧
    (∀ left right, (∀ s, s ∈ Piece.segments left ↔ s ∈ Piece.segments right) →
      lexicon.detect left = lexicon.detect right) := by
  refine ⟨?_, ?_, ?_, ?_⟩
  · intro text language h
    exact (has_detect.mp h).left
  · intro text source target hsource hne
    rw [has_detect, and_iff_right hsource]
    constructor
    · intro hall term type hmem
      rcases (unresolved_mem_diagnostics hne.symm).mp hmem with ⟨s, hs, hunknown, _⟩
      exact knows_iff.mp (hall s hs) hunknown
    · intro hnone s hs
      rw [knows_iff]
      intro hunknown
      exact hnone _ _ ((unresolved_mem_diagnostics hne.symm).mpr ⟨s, hs, hunknown, rfl, rfl⟩)
  · intro left right c hc
    exact detect_append_separator hc left right
  · intro left right h
    exact detect_eq_of_segments h

theorem has_detect_fire : (bundled.detect "!@fire,#mine".toList).has .english = true := by
  have hfire : bundled.catalog.surface? .english ⟨14⟩ = some "fire".toList := by
    rw [surface?_bundled]
    decide +kernel
  have hsegments : Piece.segments "!@fire,#mine".toList = ["!@fire".toList, "#mine".toList] := by
    decide
  rw [has_detect, hsegments, List.forall_mem_cons, List.forall_mem_singleton]
  refine ⟨(cleanColumn_bundled .english).hasLanguage, ?_, ?_⟩
  · intro _
    have hcore : (Segment.ofText "!@fire".toList).core = "fire".toList := by
      decide
    have hadmits : bundled.pins.admits ⟨14⟩ .english .move = true := by
      rw [pins_bundled]
      decide +kernel
    have hresolve := (resolve?_surface_iff hfire .move).mpr hadmits
    rw [← hcore] at hresolve
    exact Option.isSome_iff_exists.mpr ⟨_, hresolve⟩
  · intro hterm
    exact absurd hterm (by decide)

theorem detect_agrees_with_translate_fire :
    ((bundled.detect "!@fire,#mine".toList).has .english = true ∧
      bundled.catalog.hasLanguage .english = true) ∧
    (Language.german ≠ .english ∧ ∀ term type, .unresolved term type ∉
      (bundled.translate "!@fire,#mine".toList .english .german).diagnostics) ∧
    (isSeparator ',' = true ∧ bundled.detect ("!@fire".toList ++ ',' :: "#mine".toList) =
      (bundled.detect "!@fire".toList).inter (bundled.detect "#mine".toList)) ∧
    (∀ s, s ∈ Piece.segments "!@fire,#mine".toList ↔
      s ∈ Piece.segments "#mine|!@fire;#mine".toList) ∧
    bundled.detect "!@fire,#mine".toList = bundled.detect "#mine|!@fire;#mine".toList := by
  have hlanguage := (detect_agrees_with_translate bundled).left _ _ has_detect_fire
  have hsame : ∀ s, s ∈ Piece.segments "!@fire,#mine".toList ↔
      s ∈ Piece.segments "#mine|!@fire;#mine".toList := by
    have hleft : Piece.segments "!@fire,#mine".toList = ["!@fire".toList, "#mine".toList] := by
      decide
    have hright : Piece.segments "#mine|!@fire;#mine".toList =
        ["#mine".toList, "!@fire".toList, "#mine".toList] := by
      decide
    intro s
    rw [hleft, hright]
    simp only [List.mem_cons, List.not_mem_nil, or_false]
    constructor
    · intro h
      rcases h with h | h
      · exact Or.inr (Or.inl h)
      · exact Or.inl h
    · intro h
      rcases h with h | h | h
      · exact Or.inr h
      · exact Or.inl h
      · exact Or.inr h
  refine ⟨⟨has_detect_fire, hlanguage⟩, ⟨by decide, ?_⟩, ⟨by decide, ?_⟩, hsame, ?_⟩
  · exact ((detect_agrees_with_translate bundled).right.left _ _ _ hlanguage (by decide)).mp
      has_detect_fire
  · exact (detect_agrees_with_translate bundled).right.right.left _ _ ',' (by decide)
  · exact (detect_agrees_with_translate bundled).right.right.right _ _ hsame

end Lexicon
end Polyquery
