import Polyquery.Proofs.Lexicon.Bundled
import Polyquery.Proofs.Lexicon.Operators

/-!
# Translations keep the form of a query

A term that could be taken for marks, or that holds an operator or white space, would change the way a query
is read when it is put into it.  A column without such terms is clean.  Between two clean columns a
translation keeps the pieces of a query, the marks of its segments, the kinds of its tokens, and the answer
of the parser.
-/

namespace Polyquery

open Text Unicode

structure CleanTerm (term : Text) : Prop where
  blankFree : Avoids isBlank term
  operatorFree : Avoids isOperatorChar term
  first : StartsOutside Segment.isLeadChar term
  last : EndsOutside Segment.isTrailChar term

instance (term : Text) : Decidable (CleanTerm term) :=
  decidable_of_iff
    ((Avoids isBlank term ∧ Avoids isOperatorChar term) ∧
      StartsOutside Segment.isLeadChar term ∧ EndsOutside Segment.isTrailChar term)
    ⟨fun h => ⟨h.left.left, h.left.right, h.right.left, h.right.right⟩,
      fun h => ⟨⟨h.blankFree, h.operatorFree⟩, h.first, h.last⟩⟩

theorem CleanTerm.wordTerm {term : Text} (h : CleanTerm term) : WordTerm term where
  negationFree := (avoids_isOperatorChar_iff.mp h.operatorFree).left
  visible := eq_nil_of_isBlankText ((avoids_folded keptByFolding_blanks term).mpr h.blankFree)

def Lexicon.CleanColumn (lexicon : Lexicon) (language : Language) : Prop :=
  ∃ terms, lexicon.catalog.terms? language = some terms ∧ ∀ term ∈ terms, CleanTerm term

/-- Two segments with the same marks around their cores, which are read in the same way. -/
structure Segment.SameMarks (left right : Text) : Prop where
  lead : (ofText left).lead = (ofText right).lead
  trail : (ofText left).trail = (ofText right).trail
  searchType : (ofText left).searchType = (ofText right).searchType
  isTag : (ofText left).isTag = (ofText right).isTag
  hasTerm : (ofText left).hasTerm = (ofText right).hasTerm

namespace Segment

theorem sameMarks_refl (s : Text) : SameMarks s s :=
  ⟨rfl, rfl, rfl, rfl, rfl⟩

theorem sameMarks_withCore {s term : Text} (hterm : (ofText s).hasTerm = true)
    (hfits : FitsAsCore term) : SameMarks s ((ofText s).withCore term) := by
  have hsplit := ofText_withCore s hfits
  constructor
  · rw [hsplit]
  · rw [hsplit]
  · rw [hsplit]
    rfl
  · rw [hsplit]
    rfl
  · rw [hsplit, hasTerm_with_core hfits.nonempty hterm, hterm]

end Segment

namespace Lexicon

variable {lexicon : Lexicon} {source target : Language}

theorem CleanColumn.cleanTerm {language : Language} {concept : Concept} {term : Text}
    (h : lexicon.CleanColumn language)
    (hsurface : lexicon.catalog.surface? language concept = some term) : CleanTerm term := by
  rcases h with ⟨terms, hterms, hclean⟩
  exact hclean term (Catalog.mem_of_surface? hterms hsurface)

theorem CleanColumn.hasLanguage {language : Language} (h : lexicon.CleanColumn language) :
    lexicon.catalog.hasLanguage language = true := by
  rcases h with ⟨terms, hterms, _⟩
  rw [Catalog.terms?, Option.map_eq_some_iff] at hterms
  rcases hterms with ⟨column, hcolumn, _⟩
  exact Option.isSome_iff_exists.mpr ⟨column, hcolumn⟩

theorem CleanColumn.fitsAsCore {language : Language} {concept : Concept} {term : Text}
    (h : lexicon.CleanColumn language)
    (hsurface : lexicon.catalog.surface? language concept = some term) :
    Segment.FitsAsCore term := by
  have hclean := h.cleanTerm hsurface
  exact ⟨Catalog.ne_nil_of_surface? hsurface, hclean.first, hclean.last⟩

theorem CleanColumn.wordColumn {language : Language} (h : lexicon.CleanColumn language) :
    lexicon.WordColumn language :=
  fun _ _ hsurface => (h.cleanTerm hsurface).wordTerm

/-!
# One segment
-/

theorem sameMarks_of_renders {s t : Text} (htarget : lexicon.CleanColumn target)
    (h : lexicon.Renders source target s t) : Segment.SameMarks s t := by
  cases h with
  | bare _ => exact Segment.sameMarks_refl s
  | unknown _ _ => exact Segment.sameMarks_refl s
  | untranslatable _ _ _ => exact Segment.sameMarks_refl s
  | replaced hterm _ hsurface =>
      exact Segment.sameMarks_withCore hterm (htarget.fitsAsCore hsurface)

theorem avoids_isSeparator_of_renders {s t : Text} (htarget : lexicon.CleanColumn target)
    (hs : Avoids isSeparator s) (h : lexicon.Renders source target s t) :
    Avoids isSeparator t := by
  cases h with
  | bare _ => exact hs
  | unknown _ _ => exact hs
  | untranslatable _ _ _ => exact hs
  | replaced _ _ hsurface =>
      have hterm := (htarget.cleanTerm hsurface).operatorFree
      exact Segment.avoids_withCore hs (avoids_isSeparator_of_isOperatorChar hterm)

/-!
# Whole queries
-/

theorem ofText_translate (hne : source ≠ target) (htarget : lexicon.CleanColumn target)
    (text : Text) :
    Piece.ofText (lexicon.translate text source target).text =
      (Piece.ofText text).map (Piece.map (lexicon.segmentText source target)) := by
  rw [text_translate hne]
  apply Piece.ofText_joined_map
  intro s hs
  exact avoids_isSeparator_of_renders htarget (Piece.avoids_of_mem_segments hs)
    (renders_iff.mpr rfl)

theorem segments_translate (hne : source ≠ target) (htarget : lexicon.CleanColumn target)
    (text : Text) :
    Piece.segments (lexicon.translate text source target).text =
      (Piece.segments text).map (lexicon.segmentText source target) := by
  rw [text_translate hne]
  apply Piece.segments_joined_map
  intro s hs
  exact avoids_isSeparator_of_renders htarget (Piece.avoids_of_mem_segments hs)
    (renders_iff.mpr rfl)

theorem kinds_translate (hne : source ≠ target) (hsource : lexicon.CleanColumn source)
    (htarget : lexicon.CleanColumn target) (text : Text) :
    Token.kinds (lexicon.translate text source target).text = Token.kinds text := by
  refine kinds_translate_of_inserts hne hsource.wordColumn ?_ text
  rintro term ⟨_, _, _, _, _, hsurface⟩
  exact (htarget.cleanTerm hsurface).operatorFree

theorem cleanTerm_document : ∀ language ∈ Language.all,
    ∃ terms ∈ Bundled.document.languages.get? language, ∀ term ∈ terms, CleanTerm term := by
  rw [Bundled.languages_of_spelled (by repeat constructor)]
  decide +kernel

theorem cleanColumn_bundled (language : Language) : bundled.CleanColumn language := by
  rcases cleanTerm_document language (Language.mem_all language) with ⟨terms, hterms, hclean⟩
  exact ⟨terms, (terms?_bundled language).trans hterms, hclean⟩

/-- Between clean columns, a translation keeps the form of every query; all bundled columns are clean. -/
theorem translate_keeps_form :
    (∀ language, bundled.CleanColumn language) ∧
    ∀ (lexicon : Lexicon) (source target : Language), source ≠ target →
      lexicon.CleanColumn source → lexicon.CleanColumn target → ∀ text,
      List.Forall₂ (Piece.Rel Segment.SameMarks) (Piece.ofText text)
        (Piece.ofText (lexicon.translate text source target).text) ∧
      (Token.list text).map (fun placed => placed.token.kind) =
        (Token.list (lexicon.translate text source target).text).map
          (fun placed => placed.token.kind) ∧
      Query.SameReading (Query.parse text)
        (Query.parse (lexicon.translate text source target).text) := by
  constructor
  · exact cleanColumn_bundled
  · intro lexicon source target hne hsource htarget text
    have hkinds := kinds_translate hne hsource htarget text
    refine ⟨?_, ?_, Query.sameReading_of_kinds hkinds.symm⟩
    · rw [ofText_translate hne htarget]
      apply Piece.forall₂_rel_map
      intro s _
      exact sameMarks_of_renders htarget (renders_iff.mpr rfl)
    · rw [Token.map_kind_list, Token.map_kind_list, hkinds]

theorem translate_keeps_form_english_german :
    Language.english ≠ .german ∧ bundled.CleanColumn .english ∧ bundled.CleanColumn .german ∧
    List.Forall₂ (Piece.Rel Segment.SameMarks) (Piece.ofText "4*, ! @Psychic5 | cp1500-".toList)
      (Piece.ofText
        (bundled.translate "4*, ! @Psychic5 | cp1500-".toList .english .german).text) ∧
    (Token.list "4*, ! @Psychic5 | cp1500-".toList).map (fun placed => placed.token.kind) =
      (Token.list (bundled.translate "4*, ! @Psychic5 | cp1500-".toList .english .german).text).map
        (fun placed => placed.token.kind) ∧
    Query.SameReading (Query.parse "4*, ! @Psychic5 | cp1500-".toList)
      (Query.parse
        (bundled.translate "4*, ! @Psychic5 | cp1500-".toList .english .german).text) :=
  ⟨by decide, translate_keeps_form.left .english, translate_keeps_form.left .german,
    translate_keeps_form.right bundled .english .german (by decide)
      (translate_keeps_form.left .english) (translate_keeps_form.left .german)
      "4*, ! @Psychic5 | cp1500-".toList⟩

end Lexicon
end Polyquery
