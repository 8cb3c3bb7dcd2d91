import Polyquery.Lexicon.Translation
import Polyquery.Proofs.Distinct

/-!
# Translation as one pass

The translator goes over the pieces of a query and carries along what it has put out and which warnings it has
reported.  What it does with one segment depends on that segment alone, except that a warning is not reported
again.  So the whole pass puts out the rendered pieces, and it reports the unknown terms in their order and,
of everything it is warned of, the first of each key.
-/

namespace Polyquery

def Warning.key (warning : Warning) : WarningKey × WarningRole :=
  (.ofTerm warning.term warning.language, warning.role)

/-- The warning about a term, unless there is none or it is limited to other ways of reading. -/
def Occurrence.warning? (occurrence : Occurrence) (table : WarningTable) : Option Warning :=
  (table.lookup? occurrence.term occurrence.language occurrence.type).map fun entry =>
    { term := occurrence.term
      language := occurrence.language
      role := occurrence.role
      message :=
        match occurrence.role with
        | .source => entry.sourceMessage
        | .target => entry.targetMessage }

/-!
# Rendered segments
-/

inductive Rendering where
  | kept (text : Text)
  | unresolved (segment : Segment)
  | replaced (segment : Segment) (term : Text)
  deriving Repr, DecidableEq

namespace Rendering

def text : Rendering → Text
  | .kept text => text
  | .unresolved segment => segment.withCore segment.core
  | .replaced segment term => segment.withCore term

def diagnostic? : Rendering → Option Diagnostic
  | .unresolved segment => some (.unresolved segment.core segment.searchType)
  | _ => none

end Rendering

namespace Lexicon

def renderSegment (lexicon : Lexicon) (source target : Language) (text : Text) : Rendering :=
  let segment := Segment.ofText text
  if segment.hasTerm then
    match lexicon.resolve? segment.core source segment.searchType with
    | none => .unresolved segment
    | some concept =>
      match lexicon.catalog.surface? target concept with
      | none => .kept text
      | some term => .replaced segment term
  else .kept text

def occurrences (source target : Language) : Rendering → List Occurrence
  | .replaced segment term => [
      { term := segment.core, language := source, role := .source, type := segment.searchType },
      { term := term, language := target, role := .target, type := segment.searchType }]
  | _ => []

def translatePiece (lexicon : Lexicon) (source target : Language) : Piece → Text
  | .segment text => (lexicon.renderSegment source target text).text
  | .separator c => [c]

def missingLanguages (lexicon : Lexicon) (source target : Language) : List Language :=
  [source, target].filter fun language => !lexicon.catalog.hasLanguage language

end Lexicon

namespace Translator

variable {lexicon : Lexicon} {source target : Language} {translator : Translator}
  {met : List Occurrence} {pieces : List Piece}

/-!
# Warnings
-/

def warned (lexicon : Lexicon) (met : List Occurrence) : List Warning :=
  met.filterMap fun o => o.warning? lexicon.warnings

theorem warned_concat (met : List Occurrence) (o : Occurrence) :
    warned lexicon (met ++ [o]) = warned lexicon met ++ (o.warning? lexicon.warnings).toList := by
  rw [warned, List.filterMap_append, warned, List.filterMap_cons]
  cases o.warning? lexicon.warnings with
  | none => rfl
  | some warning => rfl

/-- Of the terms met so far, the translator has reported the first warning of each key, and it knows these
keys. -/
structure Reported (lexicon : Lexicon) (met : List Occurrence) (translator : Translator) : Prop where
  warnings : translator.out.warnings = distinctBy Warning.key (warned lexicon met)
  fired : ∀ key, key ∈ translator.fired ↔ ∃ warning ∈ warned lexicon met, warning.key = key

theorem fire_eq (translator : Translator) (o : Occurrence) :
    translator.fire lexicon o =
      match o.warning? lexicon.warnings with
      | none => translator
      | some warning =>
        if warning.key ∈ translator.fired then translator
        else
          { out := { translator.out with warnings := translator.out.warnings ++ [warning] }
            fired := warning.key :: translator.fired } := by
  rw [fire, Occurrence.warning?]
  cases lexicon.warnings.lookup? o.term o.language o.type with
  | none => rfl
  | some entry => rfl

theorem out_fire (translator : Translator) (o : Occurrence) :
    (translator.fire lexicon o).out.text = translator.out.text ∧
      (translator.fire lexicon o).out.diagnostics = translator.out.diagnostics := by
  rw [fire_eq]
  cases o.warning? lexicon.warnings with
  | none => exact ⟨rfl, rfl⟩
  | some warning =>
      by_cases hfired : warning.key ∈ translator.fired
      · simp only [if_pos hfired, and_self]
      · simp only [if_neg hfired, and_self]

theorem Reported.fire (h : Reported lexicon met translator) (o : Occurrence) :
    Reported lexicon (met ++ [o]) (translator.fire lexicon o) := by
  have hmore := @warned_concat lexicon met o
  rw [fire_eq]
  cases hwarning : o.warning? lexicon.warnings with
  | none =>
      rw [hwarning, Option.toList_none, List.append_nil] at hmore
      refine ⟨?_, ?_⟩
      · rw [hmore]
        exact h.warnings
      · rw [hmore]
        exact h.fired
  | some warning =>
      rw [hwarning, Option.toList_some] at hmore
      have hnew : ((warned lexicon met).all fun earlier =>
          decide (earlier.key ≠ warning.key)) = decide (warning.key ∉ translator.fired) := by
        rw [Bool.eq_iff_iff, List.all_eq_true, decide_eq_true_iff, h.fired]
        simp
      have hkeys : ∀ key, (∃ earlier ∈ warned lexicon met ++ [warning], earlier.key = key) ↔
          key ∈ translator.fired ∨ warning.key = key := by
        intro key
        simp only [h.fired, List.mem_append, List.mem_singleton, or_and_right, exists_or,
          exists_eq_left]
      by_cases hfired : warning.key ∈ translator.fired
      · refine ⟨?_, ?_⟩
        · rw [hmore, distinctBy_concat, hnew, ← h.warnings]
          simp [hfired]
        · intro key
          rw [hmore, hkeys]
          simp only [if_pos hfired]
          exact (or_iff_left_of_imp fun hsame => hsame ▸ hfired).symm
      · refine ⟨?_, ?_⟩
        · rw [hmore, distinctBy_concat, hnew, ← h.warnings]
          simp [hfired]
        · intro key
          rw [hmore, hkeys]
          simp only [if_neg hfired, List.mem_cons]
          rw [or_comm, eq_comm]

theorem Reported.foldl_fire (h : Reported lexicon met translator) (more : List Occurrence) :
    Reported lexicon (met ++ more) (more.foldl (Translator.fire lexicon) translator) := by
  induction more generalizing met translator with
  | nil =>
      rw [List.append_nil]
      exact h
  | cons o rest ih =>
      rw [List.foldl_cons, List.append_cons]
      exact ih (h.fire o)

theorem out_foldl_fire (translator : Translator) (met : List Occurrence) :
    (met.foldl (fire lexicon) translator).out.text = translator.out.text ∧
      (met.foldl (fire lexicon) translator).out.diagnostics = translator.out.diagnostics := by
  induction met generalizing translator with
  | nil => exact ⟨rfl, rfl⟩
  | cons o rest ih =>
      rcases ih (translator.fire lexicon o) with ⟨htext, hdiagnostics⟩
      rcases @out_fire lexicon translator o with ⟨hsame, hsilent⟩
      exact ⟨htext.trans hsame, hdiagnostics.trans hsilent⟩

/-!
# Pieces
-/

def reportOn (translator : Translator) (rendering : Rendering) : Translator :=
  { translator with
    out.diagnostics := translator.out.diagnostics ++ rendering.diagnostic?.toList }

theorem Reported.reportOn (h : Reported lexicon met translator) (rendering : Rendering) :
    Reported lexicon met (translator.reportOn rendering) :=
  ⟨h.warnings, h.fired⟩

/-- What becomes of a segment does not depend on what was read before it, except that a warning is not
repeated. -/
theorem segment_eq (translator : Translator) (s : Text) :
    translator.segment lexicon source target s =
      ((lexicon.renderSegment source target s).text,
        (Lexicon.occurrences source target (lexicon.renderSegment source target s)).foldl
          (fire lexicon) (translator.reportOn (lexicon.renderSegment source target s))) := by
  have hsilent : ∀ rendering : Rendering, rendering.diagnostic? = none →
      translator.reportOn rendering = translator := by
    intro rendering hnone
    rw [reportOn, hnone, Option.toList_none, List.append_nil]
  rw [segment, Lexicon.renderSegment]
  cases hterm : (Segment.ofText s).hasTerm with
  | false =>
      exact congrArg (Prod.mk s) (hsilent (.kept s) rfl).symm
  | true =>
      cases hresolve : lexicon.resolve? (Segment.ofText s).core source
          (Segment.ofText s).searchType with
      | none =>
          simp only [if_true, Rendering.text, Segment.withCore_core_ofText]
          rfl
      | some concept =>
          cases hsurface : lexicon.catalog.surface? target concept with
          | none =>
              simp only [if_true, hsurface]
              exact congrArg (Prod.mk s) (hsilent (.kept s) rfl).symm
          | some term =>
              simp only [if_true, hsurface]
              rw [hsilent (.replaced (Segment.ofText s) term) rfl]
              rfl

def renderings (lexicon : Lexicon) (source target : Language) (pieces : List Piece) :
    List Rendering :=
  (pieces.filterMap Piece.segment?).map (lexicon.renderSegment source target)

/-- The translator has reported the missing columns and then read these pieces. -/
structure HasRead (lexicon : Lexicon) (source target : Language) (pieces : List Piece)
    (translator : Translator) : Prop where
  text : translator.out.text = pieces.flatMap (lexicon.translatePiece source target)
  diagnostics : translator.out.diagnostics =
    (lexicon.missingLanguages source target).map .unsupportedLanguage ++
      (renderings lexicon source target pieces).filterMap Rendering.diagnostic?
  reported : Reported lexicon
    ((renderings lexicon source target pieces).flatMap (Lexicon.occurrences source target)) translator

theorem checkLanguage_eq {language : Language}
    (h : .unsupportedLanguage language ∉ translator.out.diagnostics) :
    translator.checkLanguage lexicon language =
      { translator with
        out.diagnostics := translator.out.diagnostics ++
          ([language].filter fun l => !lexicon.catalog.hasLanguage l).map .unsupportedLanguage } := by
  rw [checkLanguage]
  cases hlanguage : lexicon.catalog.hasLanguage language with
  | true => simp [hlanguage]
  | false => simp [hlanguage, h, report]

theorem hasRead_checkLanguages (hne : source ≠ target) :
    HasRead lexicon source target [] (start.checkLanguages lexicon source target) := by
  have hready : start.checkLanguages lexicon source target =
      { start with out.diagnostics :=
        (lexicon.missingLanguages source target).map .unsupportedLanguage } := by
    rw [checkLanguages, List.foldl_cons, List.foldl_cons, List.foldl_nil,
      checkLanguage_eq (show _ ∉ start.out.diagnostics from List.not_mem_nil),
      checkLanguage_eq]
    · simp only [start, List.nil_append, ← List.map_append, ← List.filter_append]
      rfl
    · simp [start, hne.symm]
  rw [hready]
  refine ⟨rfl, ?_, rfl, ?_⟩
  · exact (List.append_nil _).symm
  · intro key
    simp [start, renderings, warned]

theorem HasRead.step (h : HasRead lexicon source target pieces translator) (piece : Piece) :
    HasRead lexicon source target (pieces ++ [piece])
      (translator.step lexicon source target piece) := by
  cases piece with
  | separator c =>
      have hsame : renderings lexicon source target (pieces ++ [.separator c]) =
          renderings lexicon source target pieces := by
        simp [renderings, Piece.segment?]
      refine ⟨?_, ?_, ?_⟩
      · rw [List.flatMap_append, ← h.text, List.flatMap_singleton]
        rfl
      · rw [hsame]
        exact h.diagnostics
      · rw [hsame]
        exact ⟨h.reported.warnings, h.reported.fired⟩
  | segment s =>
      have hmore : renderings lexicon source target (pieces ++ [.segment s]) =
          renderings lexicon source target pieces ++ [lexicon.renderSegment source target s] := by
        simp [renderings, Piece.segment?]
      have hready := h.reported.reportOn (lexicon.renderSegment source target s)
      have hfired := hready.foldl_fire
        (Lexicon.occurrences source target (lexicon.renderSegment source target s))
      rcases @out_foldl_fire lexicon (translator.reportOn (lexicon.renderSegment source target s))
        (Lexicon.occurrences source target (lexicon.renderSegment source target s)) with
        ⟨htext, hdiagnostics⟩
      rw [Translator.step, segment_eq]
      refine ⟨?_, ?_, ?_⟩
      · rw [List.flatMap_append, ← h.text, List.flatMap_singleton]
        exact congrArg (· ++ (lexicon.renderSegment source target s).text) htext
      · rw [hmore, List.filterMap_append, ← List.append_assoc, ← h.diagnostics]
        refine hdiagnostics.trans ?_
        rw [reportOn, List.filterMap_cons]
        cases (lexicon.renderSegment source target s).diagnostic? with
        | none => rfl
        | some diagnostic => rfl
      · rw [hmore, List.flatMap_append, List.flatMap_singleton]
        exact ⟨hfired.warnings, hfired.fired⟩

theorem HasRead.foldl_step (h : HasRead lexicon source target pieces translator)
    (more : List Piece) :
    HasRead lexicon source target (pieces ++ more)
      (more.foldl (Translator.step lexicon source target) translator) := by
  induction more generalizing pieces translator with
  | nil =>
      rw [List.append_nil]
      exact h
  | cons piece rest ih =>
      rw [List.foldl_cons, List.append_cons]
      exact ih (h.step piece)

theorem HasRead.run (h : HasRead lexicon source target [] translator) (text : Text) :
    HasRead lexicon source target (Piece.ofText text)
      (translator.run lexicon source target text) :=
  h.foldl_step (Piece.ofText text)

end Translator

namespace Lexicon

variable {lexicon : Lexicon} {source target : Language}

/-- The pass over a query gives the rendered pieces, and the reports that the renderings call for. -/
theorem translate_of_ne (hne : source ≠ target) (text : Text) :
    lexicon.translate text source target =
      let renderings := (Piece.segments text).map (lexicon.renderSegment source target)
      let found := renderings.flatMap (occurrences source target)
      { text := (Piece.ofText text).flatMap (lexicon.translatePiece source target)
        warnings := distinctBy Warning.key (found.filterMap fun o => o.warning? lexicon.warnings)
        diagnostics := (lexicon.missingLanguages source target).map .unsupportedLanguage ++
          renderings.filterMap Rendering.diagnostic? } := by
  have hready := @Translator.hasRead_checkLanguages lexicon source target hne
  have hrun := hready.run text
  rw [translate, if_neg hne]
  exact Translation.ext hrun.text hrun.reported.warnings hrun.diagnostics

end Lexicon
end Polyquery
