import Polyquery.Engine.Basic
import Polyquery.Proofs.Conflict.Analysis
import Polyquery.Proofs.Lexicon.RoundTrip
import Polyquery.Proofs.Query.Acceptance

/-!
# Checked translations

The check looks at the letter behind a number group, and translation changes letters.  Still a translation
is accepted if and only if the query is, with one exception.  A term is found by its key, which has no
diacritics, so a spelling with a diacritic in front of its first letter is a spelling of the term.  Behind a
number group the diacritic hides the letter from the check, and the translation shows a letter.
-/

namespace Polyquery

open Text Unicode

/-!
# The number in front of a term
-/

def lastWord (text : Text) : Text :=
  takeTrailing (fun c => !isOperatorChar c) text

theorem lastWord_of_avoids {text : Text} (h : Avoids isOperatorChar text) :
    lastWord text = text := by
  have hrun : ∀ c ∈ text, (!isOperatorChar c) = true := by
    intro c hc
    rw [h c hc]
    rfl
  exact takeTrailing_append_run avoids_nil.endsOutside hrun

theorem lastWord_append_operator {c : Char} (hc : isOperatorChar c = true) (left right : Text) :
    lastWord (left ++ c :: right) = lastWord right :=
  takeTrailing_append_break (by rw [hc]; rfl) left right

theorem not_runsIntoLetter_marks {marks : Text}
    (hmarks : ∀ c ∈ marks, Segment.isLeadChar c = true) : ¬RunsIntoLetter marks := by
  intro h
  rcases h with ⟨number, c, rest, htext, _, hletter⟩
  have hc : c ∈ marks := by
    rw [htext]
    exact List.mem_append_right number List.mem_cons_self
  rw [isLetter_of_isLeadChar (hmarks c hc)] at hletter
  cases hletter

theorem glued_marks_append {marks rest : Text}
    (hmarks : ∀ c ∈ marks, Segment.isLeadChar c = true)
    (hrest : StartsOutside Segment.isLeadChar rest) (hplain : Avoids isOperatorChar rest) :
    Glued (marks ++ rest) ↔ NumberGroup (lastWord marks) ∧ BeginsWith isLetter rest := by
  induction marks using induction_on_breaks isOperatorChar with
  | whole run hrun =>
      rw [glued_of_avoids (avoids_append.mpr ⟨hrun, hplain⟩), lastWord_of_avoids hrun,
        runsIntoLetter_append (startsOutside_isGroupChar hrest),
        or_iff_right (not_runsIntoLetter_marks hmarks)]
  | step run c marks hrun hc ih =>
      rcases List.forall_mem_append.mp hmarks with ⟨hfirst, hothers⟩
      have hquiet : ¬Glued run := by
        rw [glued_of_avoids hrun]
        exact not_runsIntoLetter_marks hfirst
      rw [List.append_assoc, List.cons_append, glued_append_operator hc, or_iff_right hquiet,
        lastWord_append_operator hc]
      exact ih (List.forall_mem_cons.mp hothers).right

/-!
# Segments with a term
-/

namespace Segment

theorem glued_withCore (s : Text) {term : Text} (hne : term ≠ [])
    (hfirst : StartsOutside isLeadChar term) (hplain : Avoids isOperatorChar term) :
    Glued ((ofText s).withCore term) ↔
      NumberGroup (lastWord (ofText s).lead) ∧ BeginsWith isLetter term := by
  have hrest := avoids_append.mpr ⟨hplain, avoids_isOperatorChar_trail s⟩
  rw [withCore, List.append_assoc, glued_marks_append (fun c hc => isLeadChar_of_mem_lead hc)
    ((startsOutside_append hne).mpr hfirst) hrest, beginsWith_append hne]

theorem not_numberGroup_withCore (s : Text) {term : Text} (hne : term ≠ [])
    (hfirst : StartsOutside isLeadChar term) : ¬NumberGroup ((ofText s).withCore term) := by
  intro h
  cases term with
  | nil => exact hne rfl
  | cons c rest =>
      have hc : c ∈ (ofText s).withCore (c :: rest) := by simp [withCore]
      rw [startsOutside_cons, isLeadChar_of_isGroupChar (h.isGroupChar hc)] at hfirst
      cases hfirst

end Segment

namespace Lexicon

variable {lexicon : Lexicon} {source target : Language} {s : Text}

def LetterColumn (lexicon : Lexicon) (language : Language) : Prop :=
  ∀ concept term, lexicon.catalog.surface? language concept = some term → BeginsWith isLetter term

/-- A term that is known begins with a diacritic, and a number group that opens the segment or follows a
negation stands directly in front of it. -/
structure AccentedNumber (lexicon : Lexicon) (source : Language) (s : Text) : Prop where
  hasTerm : (Segment.ofText s).hasTerm = true
  known : ∃ concept, lexicon.concept? source s = some concept
  number : NumberGroup (lastWord (Segment.ofText s).lead)
  accent : BeginsWith isDiacritic (Segment.ofText s).core

/-!
# One segment
-/

theorem beginsWith_core_of_concept? {concept : Concept} (hletters : lexicon.LetterColumn source)
    (hterm : (Segment.ofText s).hasTerm = true)
    (hresolve : lexicon.concept? source s = some concept) :
    BeginsWith isLetter (Segment.ofText s).core ∨ BeginsWith isDiacritic (Segment.ofText s).core := by
  rcases exists_surface_of_resolve? hresolve with ⟨surface, hsurface, hkey, _⟩
  rcases hletters concept surface hsurface with ⟨first, hfirst, hletter⟩
  rcases List.head?_eq_some_iff.mp hfirst with ⟨tail, rfl⟩
  have hkeyLetter := (@beginsWith_isLetter_folded first tail
    (isDiacritic_of_isLetter hletter)).mpr hletter
  cases hcore : (Segment.ofText s).core with
  | nil => exact absurd hcore (Segment.hasTerm_iff.mp hterm).left
  | cons c rest =>
      rw [hkey, hcore] at hkeyLetter
      rw [beginsWith_cons, beginsWith_cons]
      cases hmark : isDiacritic c with
      | true => exact Or.inr rfl
      | false => exact Or.inl ((beginsWith_isLetter_folded hmark).mp hkeyLetter)

theorem avoids_isBlank_core_of_concept? {concept : Concept} (hsource : lexicon.CleanColumn source)
    (hresolve : lexicon.concept? source s = some concept) :
    Avoids isBlank (Segment.ofText s).core := by
  rcases exists_surface_of_resolve? hresolve with ⟨surface, hsurface, hkey, _⟩
  have hkeyBlank := (avoids_folded keptByFolding_blanks surface).mpr
    (hsource.cleanTerm hsurface).blankFree
  rw [hkey] at hkeyBlank
  exact (avoids_folded keptByFolding_blanks _).mp hkeyBlank

theorem eq_or_replaced_of_renders {t : Text} (htarget : lexicon.CleanColumn target)
    (h : lexicon.Renders source target s t) :
    (t = s ∧ ¬lexicon.AccentedNumber source s) ∨
      ∃ concept term, (Segment.ofText s).hasTerm = true ∧
        lexicon.concept? source s = some concept ∧
        lexicon.catalog.surface? target concept = some term ∧
        t = (Segment.ofText s).withCore term := by
  cases h with
  | bare hterm =>
      refine Or.inl ⟨rfl, fun haccent => ?_⟩
      exact absurd (hterm.symm.trans haccent.hasTerm) Bool.false_ne_true
  | unknown _ hresolve =>
      refine Or.inl ⟨rfl, fun haccent => ?_⟩
      rcases haccent.known with ⟨concept, hconcept⟩
      cases hresolve.symm.trans hconcept
  | untranslatable _ hresolve hsurface =>
      rcases exists_surface_in_target hresolve htarget.hasLanguage with ⟨term, hterm⟩
      cases hsurface.symm.trans hterm
  | replaced hterm hresolve hsurface =>
      exact Or.inr ⟨_, _, hterm, hresolve, hsurface, rfl⟩

variable {t : Text}

theorem avoids_isBlank_of_renders (hsource : lexicon.CleanColumn source)
    (htarget : lexicon.CleanColumn target) (h : lexicon.Renders source target s t) :
    Avoids isBlank t ↔ Avoids isBlank s := by
  rcases eq_or_replaced_of_renders htarget h with
    ⟨rfl, _⟩ | ⟨concept, term, _, hresolve, hsurface, rfl⟩
  · exact Iff.rfl
  · have hcore := avoids_isBlank_core_of_concept? hsource hresolve
    have hterm := (htarget.cleanTerm hsurface).blankFree
    nth_rewrite 2 [← Segment.withCore_core_ofText s]
    rw [Segment.withCore, Segment.withCore, avoids_append, avoids_append, avoids_append,
      avoids_append, and_iff_left hterm, and_iff_left hcore]

theorem numberGroup_of_renders (htarget : lexicon.CleanColumn target)
    (h : lexicon.Renders source target s t) : NumberGroup t ↔ NumberGroup s := by
  rcases eq_or_replaced_of_renders htarget h with
    ⟨rfl, _⟩ | ⟨concept, term, hterm, _, hsurface, rfl⟩
  · exact Iff.rfl
  · have hfits := htarget.fitsAsCore hsurface
    have hs : ¬NumberGroup s := by
      rw [← Segment.withCore_core_ofText s]
      exact Segment.not_numberGroup_withCore s (Segment.hasTerm_iff.mp hterm).left
        (Segment.core_startsOutside s)
    exact iff_of_false (Segment.not_numberGroup_withCore s hfits.nonempty hfits.first) hs

/-- Translation shows the letter that a diacritic hides, and no other segment is glued by it. -/
theorem glued_of_renders (hsource : lexicon.CleanColumn source)
    (htarget : lexicon.CleanColumn target) (hsourceLetters : lexicon.LetterColumn source)
    (htargetLetters : lexicon.LetterColumn target) (hs : Avoids isSeparator s)
    (h : lexicon.Renders source target s t) :
    Glued t ↔ Glued s ∨ lexicon.AccentedNumber source s := by
  rcases eq_or_replaced_of_renders htarget h with
    ⟨rfl, hplain⟩ | ⟨concept, term, hterm, hresolve, hsurface, rfl⟩
  · exact (or_iff_left hplain).symm
  · have hfits := htarget.fitsAsCore hsurface
    have hcore := (hsource.wordColumn.core_of_concept? hs hterm hresolve).left
    have hletter := htargetLetters concept term hsurface
    have hglued := Segment.glued_withCore s (Segment.hasTerm_iff.mp hterm).left
      (Segment.core_startsOutside s) hcore
    rw [Segment.withCore_core_ofText] at hglued
    rw [Segment.glued_withCore s hfits.nonempty hfits.first (htarget.cleanTerm hsurface).operatorFree,
      and_iff_left hletter, hglued]
    constructor
    · intro hnumber
      rcases beginsWith_core_of_concept? hsourceLetters hterm hresolve with hcoreLetter | haccent
      · exact Or.inl ⟨hnumber, hcoreLetter⟩
      · exact Or.inr ⟨hterm, ⟨concept, hresolve⟩, hnumber, haccent⟩
    · intro h
      rcases h with ⟨hnumber, _⟩ | haccent
      · exact hnumber
      · exact haccent.number

/-!
# Whole queries
-/

/-- Between clean columns of terms with letters in front, a translation is acceptable exactly if the query is
and no accented number turns up in it. -/
theorem acceptable_translate_iff (hne : source ≠ target) (hsource : lexicon.CleanColumn source)
    (htarget : lexicon.CleanColumn target) (hsourceLetters : lexicon.LetterColumn source)
    (htargetLetters : lexicon.LetterColumn target) (text : Text) :
    Query.Acceptable (lexicon.translate text source target).text ↔
      Query.Acceptable text ∧ ∀ s ∈ Piece.segments text, ¬lexicon.AccentedNumber source s := by
  have hrenders : ∀ s, lexicon.Renders source target s (lexicon.segmentText source target s) :=
    fun s => renders_iff.mpr rfl
  have halternatives := congrArg Piece.alternatives (ofText_translate hne htarget text)
  rw [Piece.alternatives_map] at halternatives
  rw [Query.acceptable_iff_of_rewritten halternatives, Query.acceptable_iff]
  have hblank : ∀ s, Avoids isBlank (lexicon.segmentText source target s) ↔ Avoids isBlank s :=
    fun s => avoids_isBlank_of_renders hsource htarget (hrenders s)
  have hglued : ∀ s ∈ Piece.segments text, (Glued (lexicon.segmentText source target s) ↔
      Glued s ∨ lexicon.AccentedNumber source s) := by
    intro s hs
    exact glued_of_renders hsource htarget hsourceLetters htargetLetters
      (Piece.avoids_of_mem_segments hs) (hrenders s)
  have hunpaired : ∀ run, Unpaired (run.map (lexicon.segmentText source target)) ↔ Unpaired run := by
    intro run
    rw [Unpaired, List.isChain_map]
    simp only [numberGroup_of_renders htarget (hrenders _)]
    rfl
  simp only [hblank, hunpaired]
  constructor
  · intro h
    rcases h with ⟨hclear, hseparate, hruns⟩
    refine ⟨⟨hclear, ?_, hruns⟩, ?_⟩
    · intro s hs hold
      exact hseparate s hs ((hglued s hs).mpr (Or.inl hold))
    · intro s hs haccent
      exact hseparate s hs ((hglued s hs).mpr (Or.inr haccent))
  · intro h
    rcases h with ⟨⟨hclear, hseparate, hruns⟩, hplain⟩
    refine ⟨hclear, ?_, hruns⟩
    intro s hs hnew
    exact ((hglued s hs).mp hnew).elim (hseparate s hs) (hplain s hs)

theorem beginsWith_document : ∀ language ∈ Language.all,
    ∃ terms ∈ Bundled.document.languages.get? language, ∀ term ∈ terms,
      BeginsWith (fun c => isLetterCode c.toNat) term := by
  rw [Bundled.languages_of_spelled (by repeat constructor)]
  decide +kernel

theorem letterColumn_bundled (language : Language) : bundled.LetterColumn language := by
  intro concept term hsurface
  rcases beginsWith_document language (Language.mem_all language) with ⟨terms, hterms, hletters⟩
  have hmem := Catalog.mem_of_surface? ((terms?_bundled language).trans hterms) hsurface
  rcases hletters term hmem with ⟨c, hc, hcode⟩
  exact ⟨c, hc, (isLetter_eq_isLetterCode c).trans hcode⟩

theorem check_translate_bundled (hne : source ≠ target) (text : Text) :
    Query.check (bundled.translate text source target).text = .ok () ↔
      Query.check text = .ok () ∧ ∀ s ∈ Piece.segments text, ¬bundled.AccentedNumber source s := by
  rw [Query.check_eq_ok_iff, Query.check_eq_ok_iff]
  exact acceptable_translate_iff hne (cleanColumn_bundled source) (cleanColumn_bundled target)
    (letterColumn_bundled source) (letterColumn_bundled target) text

end Lexicon

/-!
# Analysis in a language
-/

namespace Engine

variable {engine : Engine} {source : Language} {text : Text}

theorem lexicon_ofLexicon (lexicon : Lexicon) (rules : ConflictRules) :
    (ofLexicon lexicon rules).lexicon = lexicon := rfl

theorem rules_ofLexicon (lexicon : Lexicon) (rules : ConflictRules) :
    (ofLexicon lexicon rules).rules = rules := rfl

theorem canonicalText_analyzeIn (hlexicon : engine.lexicon = .bundled) (text : Text)
    (source : Language) :
    (engine.analyzeIn text source).canonicalText =
      (Lexicon.bundled.translate text source engine.canonical).text := by
  rw [← hlexicon]
  rfl

theorem check_canonicalText (hlexicon : engine.lexicon = .bundled)
    (hplain : source ≠ engine.canonical →
      ∀ s ∈ Piece.segments text, ¬Lexicon.bundled.AccentedNumber source s) :
    Query.check (engine.analyzeIn text source).canonicalText = .ok () ↔
      Query.check text = .ok () := by
  rw [canonicalText_analyzeIn hlexicon]
  by_cases hne : source = engine.canonical
  · rw [hne, Lexicon.text_translate_self]
  · rw [Lexicon.check_translate_bundled hne]
    exact and_iff_left (hplain hne)

theorem sameReading_canonicalText (hlexicon : engine.lexicon = .bundled) (text : Text)
    (source : Language) :
    Query.SameReading (Query.parse (engine.analyzeIn text source).canonicalText)
      (Query.parse text) := by
  apply Query.sameReading_of_kinds
  rw [canonicalText_analyzeIn hlexicon]
  by_cases hne : source = engine.canonical
  · rw [hne, Lexicon.text_translate_self]
  · exact Lexicon.kinds_translate hne (Lexicon.cleanColumn_bundled source)
      (Lexicon.cleanColumn_bundled engine.canonical) text

end Engine

namespace Lexicon

/-- The check accepts a bundled translation exactly if it accepts the query and no term of the query hides its
first letter behind a diacritic and a number in front of it.  Without such a term, an analysis in another
language ends as the analysis of the query itself would, and it is not refused when the query is not. -/
theorem check_translate_iff :
    (∀ (source target : Language) (text : Text), source ≠ target →
      (Query.check (bundled.translate text source target).text = .ok () ↔
        Query.check text = .ok () ∧
          ∀ s ∈ Piece.segments text, ¬bundled.AccentedNumber source s)) ∧
    ∀ (engine : Engine) (source : Language) (text : Text), engine.lexicon = bundled →
      (source ≠ engine.canonical → ∀ s ∈ Piece.segments text, ¬bundled.AccentedNumber source s) →
      Outcome.ofResult
          ((engine.analyzeIn text source).tree, (engine.analyzeIn text source).extraction) =
        Outcome.ofResult (Query.analyzeWithTree text engine.rules) ∧
      (Query.check text = .ok () →
        ∀ conflict ∈ (engine.analyzeIn text source).extraction.conflicts,
          conflict.kind ≠ .refused) := by
  constructor
  · intro source target text hne
    exact check_translate_bundled hne text
  · intro engine source text hlexicon hplain
    have hcheck := Engine.check_canonicalText hlexicon hplain
    have hread := Engine.sameReading_canonicalText hlexicon text source
    constructor
    · rcases Query.exists_shared_outcome engine.rules hcheck hread with
        ⟨outcome, htranslated, hasked⟩
      exact (Query.eq_ofResult_of_holds htranslated).symm.trans
        (Query.eq_ofResult_of_holds hasked)
    · intro hchecked conflict hmem
      exact Query.kind_ne_refused_of_check (hcheck.mpr hchecked) hmem

def hiddenFire : Text :=
  '4' :: Char.ofNat 0x301 :: "feuer".toList

theorem accentedNumber_hiddenFire : bundled.AccentedNumber .german hiddenFire where
  hasTerm := by decide +kernel
  known := by
    have hsurface : bundled.catalog.surface? .german ⟨14⟩ = some "feuer".toList := by
      rw [surface?_bundled]
      decide +kernel
    have hpin : Bundled.document.pinTable.get? ⟨14⟩ .german = none := by
      decide +kernel
    have hkey : folded (Char.ofNat 0x301 :: "feuer".toList) = folded "feuer".toList := by
      decide +kernel
    have hcore : (Segment.ofText hiddenFire).core = Char.ofNat 0x301 :: "feuer".toList := by
      decide +kernel
    refine ⟨⟨14⟩, ?_⟩
    unfold concept?
    rw [hcore, resolve?, hkey, ← resolve?, resolve?_surface_iff hsurface, PinTable.admits,
      pins_bundled, hpin]
    rfl
  number := Check.isNumberGroup_iff.mp (by decide +kernel)
  accent := by decide +kernel

theorem check_translate_iff_fire :
    (Language.german ≠ .english ∧
      Query.check (bundled.translate "!4@FÉUER&12-,psycho".toList .german .english).text = .ok () ∧
      Query.check (bundled.translate hiddenFire .german .english).text ≠ .ok ()) ∧
    ((Engine.ofLexicon bundled .standard).lexicon = bundled ∧
      (∀ s ∈ Piece.segments "!4@FÉUER&12-,psycho".toList, ¬bundled.AccentedNumber .german s) ∧
      Query.check "!4@FÉUER&12-,psycho".toList = .ok ()) ∧
    Outcome.ofResult
        (((Engine.ofLexicon bundled .standard).analyzeIn "!4@FÉUER&12-,psycho".toList .german).tree,
          ((Engine.ofLexicon bundled .standard).analyzeIn "!4@FÉUER&12-,psycho".toList
            .german).extraction) =
      .answered ∧
    ∀ conflict ∈ ((Engine.ofLexicon bundled .standard).analyzeIn "!4@FÉUER&12-,psycho".toList
      .german).extraction.conflicts, conflict.kind ≠ .refused := by
  have hcheck : Query.check "!4@FÉUER&12-,psycho".toList = .ok () := by
    decide +kernel
  have hparse : Query.parse "!4@FÉUER&12-,psycho".toList =
      .ok (some (.or (.and (.not "4@féuer".toList) (.filter "12-".toList))
        (.filter "psycho".toList))) := by
    decide +kernel
  have hcores : ∀ s ∈ Piece.segments "!4@FÉUER&12-,psycho".toList,
      ¬BeginsWith isDiacritic (Segment.ofText s).core := by
    decide +kernel
  have hplain : ∀ s ∈ Piece.segments "!4@FÉUER&12-,psycho".toList,
      ¬bundled.AccentedNumber .german s :=
    fun s hs haccent => hcores s hs haccent.accent
  have hlexicon := Engine.lexicon_ofLexicon bundled .standard
  rcases check_translate_iff.right _ .german "!4@FÉUER&12-,psycho".toList hlexicon
    fun _ => hplain with ⟨houtcome, hquiet⟩
  refine ⟨⟨by decide, ?_, ?_⟩, ⟨hlexicon, hplain, hcheck⟩, ?_, hquiet hcheck⟩
  · exact (check_translate_iff.left .german .english _ (by decide)).mpr ⟨hcheck, hplain⟩
  · intro h
    have haccents := ((check_translate_iff.left .german .english _ (by decide)).mp h).right
    exact haccents _ (by decide +kernel) accentedNumber_hiddenFire
  · rw [houtcome, Engine.rules_ofLexicon, Query.analyzeWithTree_of_parsed hcheck hparse]
    rfl

/-- The check accepts a number, an accent and a German term, and refuses the English translation, which has
the letter right behind the number. -/
theorem not_check_translate_accent :
    ¬∀ (source target : Language) (text : Text), source ≠ target →
      (Query.check text = .ok () ↔
        Query.check (bundled.translate text source target).text = .ok ()) := by
  intro hkeeps
  have hcheck : Query.check hiddenFire = .ok () := by
    decide +kernel
  have htranslated := (hkeeps .german .english _ (by decide)).mp hcheck
  have haccents := ((check_translate_bundled (by decide) _).mp htranslated).right
  exact haccents _ (by decide +kernel) accentedNumber_hiddenFire

end Lexicon
end Polyquery
