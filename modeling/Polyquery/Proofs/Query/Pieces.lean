import Mathlib.Data.List.Forall2
import Polyquery.Proofs.Text.Runs
import Polyquery.Query.Piece

/-!
# Queries and their pieces

Cutting a query and joining pieces are inverse to each other.  The pieces of a query alternate between
segments without separators and separators, and every list of that form is the list of pieces of the query
it joins to.  A statement about all queries can therefore be proved by induction on an alternating list.
-/

namespace Polyquery
namespace Piece

open Text

def joined (pieces : List Piece) : Text :=
  pieces.flatMap Piece.text

/-- Segments without separators, with one separator between neighbours. -/
inductive Alternating : List Piece → Prop where
  | last {s : Text} (hs : Avoids isSeparator s) : Alternating [.segment s]
  | cons {s : Text} {c : Char} {rest : List Piece} (hs : Avoids isSeparator s)
      (hc : isSeparator c = true) (hrest : Alternating rest) :
      Alternating (.segment s :: .separator c :: rest)

def map (f : Text → Text) : Piece → Piece
  | .segment s => .segment (f s)
  | .separator c => .separator c

inductive Rel (R : Text → Text → Prop) : Piece → Piece → Prop where
  | segment {s t : Text} (h : R s t) : Rel R (.segment s) (.segment t)
  | separator (c : Char) : Rel R (.separator c) (.separator c)

@[simp] theorem joined_nil : joined [] = [] := rfl

@[simp] theorem joined_segment (s : Text) (rest : List Piece) :
    joined (.segment s :: rest) = s ++ joined rest := rfl

@[simp] theorem joined_separator (c : Char) (rest : List Piece) :
    joined (.separator c :: rest) = c :: joined rest := rfl

theorem joined_append (left right : List Piece) :
    joined (left ++ right) = joined left ++ joined right :=
  List.flatMap_append

/-!
# Cutting
-/

theorem cut_of_avoids (openText : Text) {text : Text} (h : Avoids isSeparator text) :
    cut openText text = [.segment (openText.reverse ++ text)] := by
  induction text generalizing openText with
  | nil => simp [cut]
  | cons c rest ih =>
      rcases avoids_cons.mp h with ⟨hc, hrest⟩
      rw [cut, hc, if_neg Bool.false_ne_true, ih (c :: openText) hrest]
      simp

theorem cut_append_separator {c : Char} (hc : isSeparator c = true)
    (openText left right : Text) :
    cut openText (left ++ c :: right) = cut openText left ++ .separator c :: cut [] right := by
  induction left generalizing openText with
  | nil => simp [cut, hc]
  | cons d rest ih =>
      rw [List.cons_append, cut, cut, ih [], ih (d :: openText)]
      split
      · rfl
      · rfl

theorem ofText_of_avoids {s : Text} (h : Avoids isSeparator s) : ofText s = [.segment s] :=
  cut_of_avoids [] h

theorem ofText_append_separator {c : Char} (hc : isSeparator c = true) (left right : Text) :
    ofText (left ++ c :: right) = ofText left ++ .separator c :: ofText right :=
  cut_append_separator hc [] left right

theorem ofText_segment_append {s : Text} (hs : Avoids isSeparator s) {c : Char}
    (hc : isSeparator c = true) (right : Text) :
    ofText (s ++ c :: right) = .segment s :: .separator c :: ofText right := by
  rw [ofText_append_separator hc, ofText_of_avoids hs]
  rfl

/-!
# The decomposition of a query
-/

theorem alternating_ofText (query : Text) : Alternating (ofText query) := by
  induction query using induction_on_breaks isSeparator with
  | whole s hs =>
      rw [ofText_of_avoids hs]
      exact .last hs
  | step s c rest hs hc ih =>
      rw [ofText_segment_append hs hc]
      exact .cons hs hc ih

theorem joined_ofText (query : Text) : joined (ofText query) = query := by
  induction query using induction_on_breaks isSeparator with
  | whole s hs =>
      rw [ofText_of_avoids hs, joined_segment, joined_nil, List.append_nil]
  | step s c rest hs hc ih =>
      rw [ofText_segment_append hs hc, joined_segment, joined_separator, ih]

/-- An alternating list is the only way to cut the query that it joins to. -/
theorem ofText_joined {pieces : List Piece} (h : Alternating pieces) :
    ofText (joined pieces) = pieces := by
  induction h with
  | last hs => rw [joined_segment, joined_nil, List.append_nil, ofText_of_avoids hs]
  | cons hs hc _ ih =>
      rw [joined_segment, joined_separator, ofText_segment_append hs hc, ih]

/-!
# Segments
-/

theorem mem_segments {s query : Text} : s ∈ segments query ↔ .segment s ∈ ofText query := by
  rw [segments, List.mem_filterMap]
  constructor
  · rintro ⟨piece, hpiece, hs⟩
    cases piece with
    | segment text =>
        cases hs
        exact hpiece
    | separator c => cases hs
  · intro h
    exact ⟨.segment s, h, rfl⟩

theorem segments_append_separator {c : Char} (hc : isSeparator c = true) (left right : Text) :
    segments (left ++ c :: right) = segments left ++ segments right := by
  rw [segments, ofText_append_separator hc, List.filterMap_append]
  rfl

theorem Alternating.avoids {pieces : List Piece} (h : Alternating pieces) {s : Text}
    (hs : .segment s ∈ pieces) : Avoids isSeparator s := by
  induction h with
  | last hlast =>
      cases List.mem_singleton.mp hs
      exact hlast
  | cons hfirst _ _ ih =>
      rcases List.mem_cons.mp hs with heq | hs
      · cases heq
        exact hfirst
      · rcases List.mem_cons.mp hs with heq | hs
        · cases heq
        · exact ih hs

theorem avoids_of_mem_segments {s query : Text} (h : s ∈ segments query) :
    Avoids isSeparator s :=
  (alternating_ofText query).avoids (mem_segments.mp h)

theorem Alternating.map {f : Text → Text} {pieces : List Piece} (h : Alternating pieces)
    (hf : ∀ s, .segment s ∈ pieces → Avoids isSeparator (f s)) :
    Alternating (pieces.map (Piece.map f)) := by
  induction h with
  | last _ => exact .last (hf _ List.mem_cons_self)
  | cons _ hc _ ih =>
      refine .cons (hf _ List.mem_cons_self) hc (ih ?_)
      intro s hs
      exact hf s (List.mem_cons_of_mem _ (List.mem_cons_of_mem _ hs))

theorem ofText_joined_map {f : Text → Text} {query : Text}
    (hf : ∀ s ∈ segments query, Avoids isSeparator (f s)) :
    ofText (joined ((ofText query).map (Piece.map f))) = (ofText query).map (Piece.map f) := by
  apply ofText_joined
  apply (alternating_ofText query).map
  intro s hs
  exact hf s (mem_segments.mpr hs)

theorem segments_joined_map {f : Text → Text} {query : Text}
    (hf : ∀ s ∈ segments query, Avoids isSeparator (f s)) :
    segments (joined ((ofText query).map (Piece.map f))) = (segments query).map f := by
  rw [segments, segments, ofText_joined_map hf, List.filterMap_map, List.map_filterMap]
  apply List.filterMap_congr
  intro piece _
  cases piece with
  | segment s => rfl
  | separator c => rfl

/-!
# Rewritten segments
-/

theorem forall₂_rel_map {R : Text → Text → Prop} {f : Text → Text} {pieces : List Piece}
    (h : ∀ s, .segment s ∈ pieces → R s (f s)) :
    List.Forall₂ (Rel R) pieces (pieces.map (Piece.map f)) := by
  induction pieces with
  | nil => exact .nil
  | cons piece rest ih =>
      refine .cons ?_ (ih fun s hs => h s (List.mem_cons_of_mem piece hs))
      cases piece with
      | segment s => exact .segment (h s List.mem_cons_self)
      | separator c => exact .separator c

end Piece
end Polyquery
