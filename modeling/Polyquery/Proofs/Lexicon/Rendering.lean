import Polyquery.Proofs.Lexicon.Resolution
import Polyquery.Proofs.Lexicon.Translator
import Polyquery.Proofs.Query.Pieces
import Polyquery.Proofs.Query.Segments

/-!
# Rendered segments

Translation rewrites every segment on its own and joins the results.  A segment either stays as it is, or
its core makes place for the term that the same concept has in the target language.
-/

namespace Polyquery
namespace Lexicon

open Text

variable {lexicon : Lexicon} {source target : Language}

def concept? (lexicon : Lexicon) (language : Language) (s : Text) : Option Concept :=
  lexicon.resolve? (Segment.ofText s).core language (Segment.ofText s).searchType

/-- What becomes of a segment: it stays when it has no term, when its term is not known, or when the target
language has no column, and its core is replaced otherwise. -/
inductive Renders (lexicon : Lexicon) (source target : Language) (s : Text) : Text → Prop where
  | bare (hterm : (Segment.ofText s).hasTerm = false) : Renders lexicon source target s s
  | unknown (hterm : (Segment.ofText s).hasTerm = true)
      (hresolve : lexicon.concept? source s = none) : Renders lexicon source target s s
  | untranslatable {concept : Concept} (hterm : (Segment.ofText s).hasTerm = true)
      (hresolve : lexicon.concept? source s = some concept)
      (hsurface : lexicon.catalog.surface? target concept = none) : Renders lexicon source target s s
  | replaced {concept : Concept} {term : Text} (hterm : (Segment.ofText s).hasTerm = true)
      (hresolve : lexicon.concept? source s = some concept)
      (hsurface : lexicon.catalog.surface? target concept = some term) :
      Renders lexicon source target s
        ((Segment.ofText s).lead ++ term ++ (Segment.ofText s).trail)

def segmentText (lexicon : Lexicon) (source target : Language) (s : Text) : Text :=
  (lexicon.renderSegment source target s).text

theorem segmentText_of_bare {s : Text} (hterm : (Segment.ofText s).hasTerm = false) :
    lexicon.segmentText source target s = s := by
  simp [segmentText, renderSegment, hterm, Rendering.text]

theorem segmentText_of_unknown {s : Text} (hterm : (Segment.ofText s).hasTerm = true)
    (hresolve : lexicon.concept? source s = none) : lexicon.segmentText source target s = s := by
  unfold concept? at hresolve
  simp [segmentText, renderSegment, hterm, hresolve, Rendering.text,
    Segment.withCore_core_ofText]

theorem segmentText_of_untranslatable {s : Text} {concept : Concept}
    (hterm : (Segment.ofText s).hasTerm = true)
    (hresolve : lexicon.concept? source s = some concept)
    (hsurface : lexicon.catalog.surface? target concept = none) :
    lexicon.segmentText source target s = s := by
  unfold concept? at hresolve
  simp [segmentText, renderSegment, hterm, hresolve, hsurface, Rendering.text]

theorem segmentText_of_replaced {s : Text} {concept : Concept} {term : Text}
    (hterm : (Segment.ofText s).hasTerm = true)
    (hresolve : lexicon.concept? source s = some concept)
    (hsurface : lexicon.catalog.surface? target concept = some term) :
    lexicon.segmentText source target s = (Segment.ofText s).withCore term := by
  unfold concept? at hresolve
  simp [segmentText, renderSegment, hterm, hresolve, hsurface, Rendering.text]

theorem renders_iff {s t : Text} :
    lexicon.Renders source target s t ↔ t = lexicon.segmentText source target s := by
  constructor
  · intro h
    cases h with
    | bare hterm => rw [segmentText_of_bare hterm]
    | unknown hterm hresolve => rw [segmentText_of_unknown hterm hresolve]
    | untranslatable hterm hresolve hsurface =>
        rw [segmentText_of_untranslatable hterm hresolve hsurface]
    | replaced hterm hresolve hsurface =>
        rw [segmentText_of_replaced hterm hresolve hsurface, Segment.withCore]
  · rintro rfl
    cases hterm : (Segment.ofText s).hasTerm with
    | false =>
        rw [segmentText_of_bare hterm]
        exact .bare hterm
    | true =>
        cases hresolve : lexicon.concept? source s with
        | none =>
            rw [segmentText_of_unknown hterm hresolve]
            exact .unknown hterm hresolve
        | some concept =>
            cases hsurface : lexicon.catalog.surface? target concept with
            | none =>
                rw [segmentText_of_untranslatable hterm hresolve hsurface]
                exact .untranslatable hterm hresolve hsurface
            | some term =>
                rw [segmentText_of_replaced hterm hresolve hsurface, Segment.withCore]
                exact .replaced hterm hresolve hsurface

/-!
# Translations as rewritten pieces
-/

theorem text_translate (hne : source ≠ target) (text : Text) :
    (lexicon.translate text source target).text =
      Piece.joined ((Piece.ofText text).map (Piece.map (lexicon.segmentText source target))) := by
  rw [translate_of_ne hne, Piece.joined, List.flatMap_map]
  apply List.flatMap_congr
  intro piece _
  cases piece with
  | segment s => rfl
  | separator c => rfl

theorem text_translate_self (text : Text) :
    (lexicon.translate text source source).text = text := by
  rw [translate, if_pos rfl]

end Lexicon
end Polyquery
