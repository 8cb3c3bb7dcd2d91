import Polyquery.Proofs.Lexicon.Detection
import Polyquery.Proofs.Lexicon.RoundTrip

/-!
# Translations put together

A separator cuts a translation like it cuts the query: the text behind it and the terms reported as unknown
are those of the two parts.  So it is enough to know what becomes of one segment.  It stays as it is, it gets
the term of its concept, or it stays as it is and is reported, and it is always exactly one of the three.
-/

namespace Polyquery

open Text

def Diagnostic.isUnresolved : Diagnostic → Bool
  | .unresolved _ _ => true
  | _ => false

def Translation.unresolved (translation : Translation) : List Diagnostic :=
  translation.diagnostics.filter Diagnostic.isUnresolved

inductive Treatment where
  | bare
  | renamed
  | unknown

namespace Lexicon

variable {lexicon : Lexicon} {source target : Language}

structure Bare (lexicon : Lexicon) (source target : Language) (s : Text) : Prop where
  noTerm : (Segment.ofText s).core = [] ∨ '#' ∈ (Segment.ofText s).lead
  text : (lexicon.translate s source target).text = s
  diagnostics : (lexicon.translate s source target).diagnostics = []

structure Renamed (lexicon : Lexicon) (source target : Language) (s : Text) : Prop where
  hasTerm : (Segment.ofText s).core ≠ [] ∧ '#' ∉ (Segment.ofText s).lead
  text : ∃ concept term, lexicon.concept? source s = some concept ∧
    lexicon.catalog.surface? target concept = some term ∧
    (lexicon.translate s source target).text =
      (Segment.ofText s).lead ++ term ++ (Segment.ofText s).trail
  diagnostics : (lexicon.translate s source target).diagnostics = []

structure Unknown (lexicon : Lexicon) (source target : Language) (s : Text) : Prop where
  hasTerm : (Segment.ofText s).core ≠ [] ∧ '#' ∉ (Segment.ofText s).lead
  concept : lexicon.concept? source s = none
  text : (lexicon.translate s source target).text = s
  diagnostics : (lexicon.translate s source target).diagnostics =
    [.unresolved (Segment.ofText s).core (Segment.ofText s).searchType]

end Lexicon

namespace Treatment

variable {lexicon : Lexicon} {source target : Language} {s : Text}

def Holds (lexicon : Lexicon) (source target : Language) (s : Text) : Treatment → Prop
  | bare => lexicon.Bare source target s
  | renamed => lexicon.Renamed source target s
  | unknown => lexicon.Unknown source target s

end Treatment

/-!
# Reports
-/

theorem Segment.hasTerm_iff_not_mem {segment : Segment} :
    segment.hasTerm = true ↔ segment.core ≠ [] ∧ '#' ∉ segment.lead := by
  rw [hasTerm_iff, isTag, tagMarker, List.contains_eq_mem, decide_eq_false_iff_not]

theorem Segment.hasTerm_eq_false_iff {segment : Segment} :
    segment.hasTerm = false ↔ segment.core = [] ∨ '#' ∈ segment.lead := by
  rw [← Bool.not_eq_true, hasTerm_iff_not_mem, not_and_or, not_not, not_not]

namespace Lexicon

variable {lexicon : Lexicon} {source target : Language} {s text : Text}

theorem isUnresolved_of_diagnostic? {diagnostic : Diagnostic}
    (h : (lexicon.renderSegment source target s).diagnostic? = some diagnostic) :
    diagnostic.isUnresolved = true := by
  rcases diagnostic?_renderSegment.mp h with ⟨_, rfl⟩
  rfl

theorem diagnostics_translate (hne : source ≠ target) (text : Text) :
    (lexicon.translate text source target).diagnostics =
      (lexicon.missingLanguages source target).map .unsupportedLanguage ++
        (Piece.segments text).filterMap fun s =>
          (lexicon.renderSegment source target s).diagnostic? := by
  rw [translate_of_ne hne]
  simp only [List.filterMap_map]
  rfl

theorem unresolved_translate (hne : source ≠ target) (text : Text) :
    (lexicon.translate text source target).unresolved =
      (Piece.segments text).filterMap fun s =>
        (lexicon.renderSegment source target s).diagnostic? := by
  have hmissing : ((lexicon.missingLanguages source target).map
      Diagnostic.unsupportedLanguage).filter Diagnostic.isUnresolved = [] := by
    rw [List.filter_eq_nil_iff]
    intro diagnostic hmem
    rcases List.mem_map.mp hmem with ⟨language, _, rfl⟩
    exact Bool.false_ne_true
  rw [Translation.unresolved, diagnostics_translate hne, List.filter_append, hmissing,
    List.nil_append, List.filter_eq_self]
  intro diagnostic hmem
  rcases List.mem_filterMap.mp hmem with ⟨s, _, hs⟩
  exact isUnresolved_of_diagnostic? hs

theorem diagnostics_translate_eq_append (hne : source ≠ target) (text : Text) :
    (lexicon.translate text source target).diagnostics =
      (lexicon.missingLanguages source target).map .unsupportedLanguage ++
        (lexicon.translate text source target).unresolved := by
  rw [unresolved_translate hne, diagnostics_translate hne]

theorem map_missingLanguages (lexicon : Lexicon) (source target : Language) :
    (lexicon.missingLanguages source target).map Diagnostic.unsupportedLanguage =
      (if lexicon.catalog.hasLanguage source then [] else [.unsupportedLanguage source]) ++
        if lexicon.catalog.hasLanguage target then [] else [.unsupportedLanguage target] := by
  cases hsource : lexicon.catalog.hasLanguage source with
  | true =>
      cases htarget : lexicon.catalog.hasLanguage target with
      | true => simp [missingLanguages, hsource, htarget]
      | false => simp [missingLanguages, hsource, htarget]
  | false =>
      cases htarget : lexicon.catalog.hasLanguage target with
      | true => simp [missingLanguages, hsource, htarget]
      | false => simp [missingLanguages, hsource, htarget]

/-!
# One segment
-/

theorem diagnostics_translate_segment (hne : source ≠ target)
    (hsource : lexicon.catalog.hasLanguage source = true)
    (htarget : lexicon.catalog.hasLanguage target = true) (hs : Avoids isSeparator s) :
    (lexicon.translate s source target).diagnostics =
      (lexicon.renderSegment source target s).diagnostic?.toList := by
  have hsegments : Piece.segments s = [s] := by
    rw [Piece.segments, Piece.ofText_of_avoids hs]
    rfl
  rw [diagnostics_translate hne, hsegments, map_missingLanguages, hsource, htarget]
  cases hreport : (lexicon.renderSegment source target s).diagnostic? with
  | none => simp [hreport]
  | some diagnostic => simp [hreport]

theorem diagnostics_translate_of_known (hne : source ≠ target)
    (hsource : lexicon.catalog.hasLanguage source = true)
    (htarget : lexicon.catalog.hasLanguage target = true) (hs : Avoids isSeparator s)
    (h : ¬((Segment.ofText s).hasTerm = true ∧ lexicon.concept? source s = none)) :
    (lexicon.translate s source target).diagnostics = [] := by
  have hreport : (lexicon.renderSegment source target s).diagnostic? = none := by
    rw [Option.eq_none_iff_forall_ne_some]
    intro diagnostic hdiagnostic
    exact h (diagnostic?_renderSegment.mp hdiagnostic).left
  rw [diagnostics_translate_segment hne hsource htarget hs, hreport]
  rfl

theorem exists_treatment (hne : source ≠ target)
    (hsource : lexicon.catalog.hasLanguage source = true)
    (htarget : lexicon.catalog.hasLanguage target = true) (hs : Avoids isSeparator s) :
    ∃ treatment : Treatment, treatment.Holds lexicon source target s := by
  cases hterm : (Segment.ofText s).hasTerm with
  | false =>
      refine ⟨.bare, Segment.hasTerm_eq_false_iff.mp hterm, ?_, ?_⟩
      · rw [translate_segment hne hs, segmentText_of_bare hterm]
      · apply diagnostics_translate_of_known hne hsource htarget hs
        intro h
        rcases h with ⟨hother, _⟩
        exact absurd (hterm.symm.trans hother) Bool.false_ne_true
  | true =>
      have hmarks := Segment.hasTerm_iff_not_mem.mp hterm
      cases hresolve : lexicon.concept? source s with
      | none =>
          refine ⟨.unknown, hmarks, hresolve, ?_, ?_⟩
          · rw [translate_segment hne hs, segmentText_of_unknown hterm hresolve]
          · rw [diagnostics_translate_segment hne hsource htarget hs,
              diagnostic?_renderSegment.mpr ⟨⟨hterm, hresolve⟩, rfl⟩]
            rfl
      | some concept =>
          rcases exists_surface_in_target hresolve htarget with ⟨term, hsurface⟩
          refine ⟨.renamed, hmarks, ⟨concept, term, hresolve, hsurface, ?_⟩, ?_⟩
          · rw [translate_segment hne hs, segmentText_of_replaced hterm hresolve hsurface,
              Segment.withCore]
          · apply diagnostics_translate_of_known hne hsource htarget hs
            intro h
            rcases h with ⟨_, hnone⟩
            rw [hresolve] at hnone
            cases hnone

theorem eq_of_treatments {first second : Treatment}
    (hfirst : first.Holds lexicon source target s)
    (hsecond : second.Holds lexicon source target s) : first = second := by
  have hbare : lexicon.Bare source target s →
      ¬((Segment.ofText s).core ≠ [] ∧ '#' ∉ (Segment.ofText s).lead) := by
    intro h hparts
    rcases hparts with ⟨hcore, htag⟩
    exact h.noTerm.elim hcore htag
  have hrenamed : lexicon.Renamed source target s → lexicon.concept? source s ≠ none := by
    intro h hnone
    rcases h.text with ⟨concept, _, hconcept, _⟩
    rw [hnone] at hconcept
    cases hconcept
  cases first with
  | bare =>
      cases second with
      | bare => rfl
      | renamed => exact absurd (Renamed.hasTerm hsecond) (hbare hfirst)
      | unknown => exact absurd (Unknown.hasTerm hsecond) (hbare hfirst)
  | renamed =>
      cases second with
      | bare => exact absurd (Renamed.hasTerm hfirst) (hbare hsecond)
      | renamed => rfl
      | unknown => exact absurd (Unknown.concept hsecond) (hrenamed hfirst)
  | unknown =>
      cases second with
      | bare => exact absurd (Unknown.hasTerm hfirst) (hbare hsecond)
      | renamed => exact absurd (Unknown.concept hfirst) (hrenamed hsecond)
      | unknown => rfl

/-!
# Missing columns
-/

theorem surface?_of_missing {language : Language} (concept : Concept)
    (h : lexicon.catalog.hasLanguage language = false) :
    lexicon.catalog.surface? language concept = none := by
  rw [Option.eq_none_iff_forall_ne_some]
  intro term hsurface
  rcases Catalog.surface?_eq_some_iff.mp hsurface with ⟨column, hcolumn, _⟩
  rw [Catalog.hasLanguage, hcolumn] at h
  cases h

theorem concept?_of_missing {language : Language} (s : Text)
    (h : lexicon.catalog.hasLanguage language = false) : lexicon.concept? language s = none := by
  rw [Option.eq_none_iff_forall_ne_some]
  intro concept hconcept
  rcases exists_surface_of_resolve? hconcept with ⟨surface, hsurface, _, _⟩
  rw [surface?_of_missing concept h] at hsurface
  cases hsurface

theorem segmentText_of_missing
    (h : lexicon.catalog.hasLanguage source = false ∨ lexicon.catalog.hasLanguage target = false)
    (s : Text) : lexicon.segmentText source target s = s := by
  rcases h with hsource | htarget
  · exact segmentText_of_unresolved (concept?_of_missing s hsource)
  · cases hterm : (Segment.ofText s).hasTerm with
    | false => exact segmentText_of_bare hterm
    | true =>
        cases hresolve : lexicon.concept? source s with
        | none => exact segmentText_of_unknown hterm hresolve
        | some concept =>
            exact segmentText_of_untranslatable hterm hresolve
              (surface?_of_missing concept htarget)

/-!
# Whole queries
-/

theorem text_translate_append (hne : source ≠ target) {c : Char} (hc : isSeparator c = true)
    (left right : Text) :
    (lexicon.translate (left ++ c :: right) source target).text =
      (lexicon.translate left source target).text ++
        c :: (lexicon.translate right source target).text := by
  rw [text_translate hne, text_translate hne, text_translate hne,
    Piece.ofText_append_separator hc, List.map_append, List.map_cons, Piece.joined_append]
  rfl

theorem unresolved_translate_append (hne : source ≠ target) {c : Char}
    (hc : isSeparator c = true) (left right : Text) :
    (lexicon.translate (left ++ c :: right) source target).unresolved =
      (lexicon.translate left source target).unresolved ++
        (lexicon.translate right source target).unresolved := by
  rw [unresolved_translate hne, unresolved_translate hne, unresolved_translate hne,
    Piece.segments_append_separator hc, List.filterMap_append]

/-- A translation is put together from the translations of the segments, each of which is treated in exactly
one of three ways.  Without a column nothing is changed, and what is missing is reported first. -/
theorem translate_composes (lexicon : Lexicon) {source target : Language} (hne : source ≠ target) :
    (∀ left right c, isSeparator c = true →
      (lexicon.translate (left ++ c :: right) source target).text =
        (lexicon.translate left source target).text ++
          c :: (lexicon.translate right source target).text ∧
      (lexicon.translate (left ++ c :: right) source target).unresolved =
        (lexicon.translate left source target).unresolved ++
          (lexicon.translate right source target).unresolved) ∧
    (lexicon.catalog.hasLanguage source = true → lexicon.catalog.hasLanguage target = true →
      ∀ s, Avoids isSeparator s →
        ∃! treatment : Treatment, treatment.Holds lexicon source target s) ∧
    (lexicon.catalog.hasLanguage source = false ∨ lexicon.catalog.hasLanguage target = false →
      ∀ text, (lexicon.translate text source target).text = text ∧
        (lexicon.translate text source target).diagnostics =
          (if lexicon.catalog.hasLanguage source then [] else [.unsupportedLanguage source]) ++
            (if lexicon.catalog.hasLanguage target then [] else [.unsupportedLanguage target]) ++
              (lexicon.translate text source target).unresolved) := by
  refine ⟨?_, ?_, ?_⟩
  · intro left right c hc
    exact ⟨text_translate_append hne hc left right, unresolved_translate_append hne hc left right⟩
  · intro hsource htarget s hs
    rcases exists_treatment hne hsource htarget hs with ⟨treatment, htreatment⟩
    exact ⟨treatment, htreatment, fun other hother => eq_of_treatments hother htreatment⟩
  · intro hmissing text
    constructor
    · rw [text_translate hne]
      exact joined_map_of_unchanged fun s _ => segmentText_of_missing hmissing s
    · rw [← map_missingLanguages]
      exact diagnostics_translate_eq_append hne text

def fireOnly : Lexicon :=
  (CatalogDocument.named "fire".toList "feuer".toList).toLexicon.toOption.get
    CatalogDocument.loads_fire

theorem translate_composes_fire :
    (Language.english ≠ .german ∧ isSeparator ';' = true ∧
      (fireOnly.translate ("!@Fíre".toList ++ ';' :: "#fire&ember5".toList) .english .german).text =
        "!@feuer;#fire&ember5".toList ∧
      (fireOnly.translate ("!@Fíre".toList ++ ';' :: "#fire&ember5".toList)
        .english .german).unresolved = [.unresolved "ember".toList .search]) ∧
    ((fireOnly.catalog.hasLanguage .english = true ∧
      fireOnly.catalog.hasLanguage .german = true ∧ Avoids isSeparator "!@Fíre".toList) ∧
      ∃! treatment : Treatment, treatment.Holds fireOnly .english .german "!@Fíre".toList) ∧
    (Language.thai ≠ .french ∧ fireOnly.catalog.hasLanguage .thai = false ∧
      (fireOnly.translate "fire,4*".toList .thai .french).text = "fire,4*".toList ∧
      (fireOnly.translate "fire,4*".toList .thai .french).diagnostics =
        [.unsupportedLanguage .thai, .unsupportedLanguage .french,
          .unresolved "fire".toList .name]) := by
  have henglish : fireOnly.catalog.hasLanguage .english = true := by
    decide +kernel
  have hgerman : fireOnly.catalog.hasLanguage .german = true := by
    decide +kernel
  have hthai : fireOnly.catalog.hasLanguage .thai = false := by
    decide +kernel
  have hfrench : fireOnly.catalog.hasLanguage .french = false := by
    decide +kernel
  rcases translate_composes fireOnly (by decide : Language.english ≠ .german) with
    ⟨happend, hsegment, _⟩
  rcases happend "!@Fíre".toList "#fire&ember5".toList ';' (by decide) with ⟨htext, hreports⟩
  have hmissing := (translate_composes fireOnly (by decide : Language.thai ≠ .french)).right.right
    (Or.inl hthai) "fire,4*".toList
  refine ⟨⟨by decide, by decide, ?_, ?_⟩, ⟨⟨henglish, hgerman, by decide⟩, ?_⟩, by decide, hthai,
    hmissing.left, ?_⟩
  · rw [htext]
    decide +kernel
  · rw [hreports]
    decide +kernel
  · exact hsegment henglish hgerman _ (by decide)
  · rw [hmissing.right, hthai, hfrench]
    decide +kernel

end Lexicon
end Polyquery
