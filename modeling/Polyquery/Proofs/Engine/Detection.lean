import Polyquery.Engine.Basic
import Polyquery.Proofs.Lexicon.Detection

/-!
# Translation from a detected language

A query whose language is not given is translated from a language in which all its terms are known.  So no
term stays unresolved.  What can be reported is that there was a choice between languages, and that there is
no column to translate to.
-/

namespace Polyquery

/-!
# Members of sets
-/

namespace LanguageSet

variable {set : LanguageSet} {language : Language}

theorem pairwise_toList (set : LanguageSet) :
    set.toList.Pairwise fun a b => a.index < b.index :=
  Language.pairwise_all.filter _

theorem head?_toList_eq_some_iff :
    set.toList.head? = some language ↔
      set.has language = true ∧ ∀ other, set.has other = true → language.index ≤ other.index := by
  have hsorted := pairwise_toList set
  simp only [← mem_toList]
  cases hlist : set.toList with
  | nil => simp
  | cons first rest =>
      rw [hlist, List.pairwise_cons] at hsorted
      rcases hsorted with ⟨hfirst, _⟩
      rw [List.head?_cons, Option.some_inj]
      constructor
      · rintro rfl
        refine ⟨List.mem_cons_self, ?_⟩
        intro other hother
        rcases List.mem_cons.mp hother with rfl | hother
        · exact Nat.le_refl _
        · exact Nat.le_of_lt (hfirst other hother)
      · intro h
        rcases h with ⟨hmem, hleast⟩
        rcases List.mem_cons.mp hmem with rfl | hmem
        · rfl
        · exact absurd (hfirst language hmem) (Nat.not_lt.mpr (hleast first List.mem_cons_self))

theorem head?_toList_eq_none_iff :
    set.toList.head? = none ↔ ∀ language, set.has language = false := by
  rw [List.head?_eq_none_iff, List.eq_nil_iff_forall_not_mem]
  simp only [mem_toList, Bool.not_eq_true]

theorem one_lt_size_iff (hlanguage : set.has language = true) :
    1 < set.size ↔ ∃ other, set.has other = true ∧ other ≠ language := by
  have hsorted := pairwise_toList set
  rw [size]
  simp only [← mem_toList] at hlanguage ⊢
  cases hlist : set.toList with
  | nil => simp [hlist] at hlanguage
  | cons first rest =>
      rw [hlist] at hsorted hlanguage
      cases rest with
      | nil =>
          rw [List.mem_singleton] at hlanguage
          simp [hlanguage]
      | cons second rest =>
          have hne : first ≠ second := by
            rintro rfl
            exact absurd ((List.pairwise_cons.mp hsorted).left first List.mem_cons_self)
              (Nat.lt_irrefl _)
          refine iff_of_true (by simp) ?_
          by_cases heq : first = language
          · exact ⟨second, List.mem_cons_of_mem _ List.mem_cons_self, heq ▸ hne.symm⟩
          · exact ⟨first, List.mem_cons_self, heq⟩

end LanguageSet

/-!
# Languages without unknown terms
-/

namespace Lexicon

/-- A translation from a language that was detected reports at most that the target has no column. -/
theorem diagnostics_translate_of_has_detect {lexicon : Lexicon} {source target : Language}
    {text : Text} (h : (lexicon.detect text).has source = true) :
    (lexicon.translate text source target).diagnostics =
      if lexicon.catalog.hasLanguage target then [] else [.unsupportedLanguage target] := by
  rcases has_detect.mp h with ⟨hsource, hknown⟩
  by_cases hne : source = target
  · rw [← hne, translate, if_pos rfl, if_pos hsource]
  · have hmissing : lexicon.missingLanguages source target =
        if lexicon.catalog.hasLanguage target then [] else [target] := by
      cases htarget : lexicon.catalog.hasLanguage target with
      | true => simp [missingLanguages, hsource, htarget]
      | false => simp [missingLanguages, hsource, htarget]
    have hsilent : ((Piece.segments text).map (lexicon.renderSegment source target)).filterMap
        Rendering.diagnostic? = [] := by
      rw [List.filterMap_map, List.filterMap_eq_nil_iff]
      intro s hs
      rw [Function.comp_apply, Option.eq_none_iff_forall_not_mem]
      intro diagnostic hreported
      exact knows_iff.mp (hknown s hs) (diagnostic?_renderSegment.mp hreported).left
    rw [translate_of_ne hne]
    simp only [hmissing, hsilent, List.append_nil]
    split <;> rfl

end Lexicon

/-!
# The choice of a language
-/

namespace Engine

/-- The language to take of a set: the canonical one, or else the first of its members. -/
structure Prefers (engine : Engine) (candidates : LanguageSet) (source : Language) : Prop where
  member : candidates.has source = true
  canonical : candidates.has engine.canonical = true → source = engine.canonical
  first : candidates.has engine.canonical = false →
    ∀ other, candidates.has other = true → source.index ≤ other.index

variable {engine : Engine} {candidates : LanguageSet} {source : Language}

theorem pickSource?_eq_none_iff :
    engine.pickSource? candidates = none ↔ ∀ language, candidates.has language = false := by
  rw [pickSource?]
  split
  · rename_i hcanonical
    refine iff_of_false (Option.some_ne_none _) ?_
    intro hnone
    rw [hnone] at hcanonical
    cases hcanonical
  · exact LanguageSet.head?_toList_eq_none_iff

theorem prefers_of_pickSource? (h : engine.pickSource? candidates = some source) :
    engine.Prefers candidates source := by
  rw [pickSource?] at h
  split at h
  · rename_i hcanonical
    cases h
    refine ⟨hcanonical, fun _ => rfl, ?_⟩
    intro habsent
    exact absurd (habsent.symm.trans hcanonical) Bool.false_ne_true
  · rename_i habsent
    rcases LanguageSet.head?_toList_eq_some_iff.mp h with ⟨hmember, hleast⟩
    exact ⟨hmember, fun hcanonical => absurd hcanonical habsent, fun _ => hleast⟩

theorem exists_prefers (engine : Engine) {member : Language}
    (hmember : candidates.has member = true) :
    ∃ source, engine.pickSource? candidates = some source ∧ engine.Prefers candidates source := by
  cases hpicked : engine.pickSource? candidates with
  | none =>
      rw [pickSource?_eq_none_iff.mp hpicked member] at hmember
      cases hmember
  | some source => exact ⟨source, rfl, prefers_of_pickSource? hpicked⟩

theorem translateDetected_of_pickSource? {text : Text} (target : Language)
    (hpicked : engine.pickSource? (engine.detect text) = some source) :
    engine.translateDetected text target =
      { engine.translate text source target with
        diagnostics :=
          (if 1 < (engine.detect text).size then [.ambiguousLanguage (engine.detect text) source]
            else []) ++ (engine.translate text source target).diagnostics } := by
  rw [translateDetected, hpicked]
  dsimp only
  split <;> rfl

theorem diagnostics_translateDetected {text : Text} (target : Language)
    (hpicked : engine.pickSource? (engine.detect text) = some source) :
    (engine.translateDetected text target).diagnostics =
      (if 1 < (engine.detect text).size then [.ambiguousLanguage (engine.detect text) source]
        else []) ++
      if engine.lexicon.catalog.hasLanguage target then [] else [.unsupportedLanguage target] := by
  have hquiet : (engine.translate text source target).diagnostics =
      if engine.lexicon.catalog.hasLanguage target then [] else [.unsupportedLanguage target] :=
    Lexicon.diagnostics_translate_of_has_detect (prefers_of_pickSource? hpicked).member
  rw [translateDetected_of_pickSource? target hpicked, ← hquiet]

theorem unresolved_not_mem_translateDetected {text : Text} (target : Language)
    (hpicked : engine.pickSource? (engine.detect text) = some source) (term : Text)
    (type : SearchType) :
    .unresolved term type ∉ (engine.translateDetected text target).diagnostics := by
  intro hmem
  rw [diagnostics_translateDetected target hpicked, List.mem_append] at hmem
  rcases hmem with hmem | hmem
  · split at hmem
    · simp at hmem
    · cases hmem
  · split at hmem
    · cases hmem
    · simp at hmem

/-- A translation from a detected language leaves no term unresolved.  Where no language is detected, the text
stays as it is. -/
theorem translateDetected_resolves (engine : Engine) (text : Text) (target : Language) :
    ((∀ language, (engine.detect text).has language = false) →
      engine.translateDetected text target =
        { text := text, warnings := [], diagnostics := [.undetectedLanguage] }) ∧
    ∀ member, (engine.detect text).has member = true →
      ∃ source, engine.Prefers (engine.detect text) source ∧
        (engine.translateDetected text target).text =
          (engine.translate text source target).text ∧
        (engine.translateDetected text target).warnings =
          (engine.translate text source target).warnings ∧
        ((∃ other, (engine.detect text).has other = true ∧ other ≠ source) →
          (engine.translateDetected text target).diagnostics =
            .ambiguousLanguage (engine.detect text) source ::
              if engine.lexicon.catalog.hasLanguage target then []
              else [.unsupportedLanguage target]) ∧
        ((∀ other, (engine.detect text).has other = true → other = source) →
          (engine.translateDetected text target).diagnostics =
            if engine.lexicon.catalog.hasLanguage target then []
            else [.unsupportedLanguage target]) ∧
        ∀ term type,
          .unresolved term type ∉ (engine.translateDetected text target).diagnostics := by
  constructor
  · intro hnone
    rw [translateDetected, pickSource?_eq_none_iff.mpr hnone]
  · intro member hmember
    rcases exists_prefers engine hmember with ⟨source, hpicked, hprefers⟩
    have hseveral := LanguageSet.one_lt_size_iff hprefers.member
    have hreport := diagnostics_translateDetected target hpicked
    refine ⟨source, hprefers, ?_, ?_, ?_, ?_,
      unresolved_not_mem_translateDetected target hpicked⟩
    · rw [translateDetected_of_pickSource? target hpicked]
    · rw [translateDetected_of_pickSource? target hpicked]
    · intro hothers
      rw [hreport, if_pos (hseveral.mpr hothers), List.singleton_append]
    · intro honly
      have hsingle : ¬1 < (engine.detect text).size := by
        intro hsize
        rcases hseveral.mp hsize with ⟨other, hother, hne⟩
        exact hne (honly other hother)
      rw [hreport, if_neg hsingle, List.nil_append]

def sharedWord : CatalogDocument :=
  { languages := .ofList [
      (.english, ["costume".toList, "shiny".toList]),
      (.french, ["costume".toList, "chromatique".toList])]
    pins := []
    warnings := [] }

theorem exists_lexicon_sharedWord : sharedWord.toLexicon.toOption.isSome = true := by
  decide +kernel

def bilingual : Engine :=
  { lexicon := sharedWord.toLexicon.toOption.get exists_lexicon_sharedWord
    rules := .standard
    canonical := .french }

theorem translateDetected_resolves_costume :
    (bilingual.detect "costume".toList).has .english = true ∧
    (bilingual.translateDetected "costume".toList .german).text = "costume".toList ∧
    (bilingual.translateDetected "costume".toList .german).diagnostics =
      [.ambiguousLanguage (.ofList [.english, .french]) .french, .unsupportedLanguage .german] ∧
    (∀ language, (bilingual.detect "costume&shiny,chromatique".toList).has language = false) ∧
    bilingual.translateDetected "costume&shiny,chromatique".toList .german =
      { text := "costume&shiny,chromatique".toList
        warnings := []
        diagnostics := [.undetectedLanguage] } := by
  have hboth : bilingual.detect "costume".toList = .ofList [.english, .french] := by
    decide +kernel
  have hnone : bilingual.detect "costume&shiny,chromatique".toList = .empty := by
    decide +kernel
  have henglish : (bilingual.detect "costume".toList).has .english = true := by
    rw [hboth]
    decide
  have hundetected : ∀ language,
      (bilingual.detect "costume&shiny,chromatique".toList).has language = false := by
    rw [hnone]
    exact LanguageSet.has_empty
  rcases (translateDetected_resolves bilingual "costume".toList .german).right .english henglish
    with ⟨source, hprefers, htext, _, hseveral, _, _⟩
  have hsource : source = .french := by
    apply hprefers.canonical
    rw [hboth]
    decide
  subst hsource
  refine ⟨henglish, ?_, ?_, hundetected, ?_⟩
  · rw [htext]
    decide +kernel
  · rw [hseveral ⟨.english, henglish, by decide⟩, hboth, if_neg (by decide +kernel)]
  · exact (translateDetected_resolves bilingual _ .german).left hundetected

end Engine
end Polyquery
