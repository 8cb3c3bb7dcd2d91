import Polyquery.Proofs.Query.Nesting
import Polyquery.Proofs.Query.Parsing
import Polyquery.Proofs.Query.Terms

/-!
# Written queries

A flat tree with valid terms is written down with one segment for each leaf and with a disjunction between
its alternatives, so parsing brings back its leaves and alternatives, grouped to the left.  A tree that the
parser built is grouped in this way already and is read back as it was.
-/

namespace Polyquery

open Text Unicode

/-!
# Cutting at an operator
-/

namespace Piece

theorem alternatives_append_or {c : Char} (hc : Operator.ofChar? c = some .or)
    (left right : List Piece) :
    alternatives (left ++ .separator c :: right) = alternatives left ++ alternatives right := by
  induction left with
  | nil => simp [alternatives, hc]
  | cons piece rest ih =>
      rw [List.cons_append]
      cases piece with
      | segment s =>
          rw [alternatives, alternatives, ih]
          cases halts : alternatives rest with
          | nil => exact absurd halts (alternatives_ne_nil rest)
          | cons run runs => rfl
      | separator d =>
          rw [alternatives, alternatives, ih]
          split
          · rfl
          · rfl

theorem alternatives_append_and {c : Char} (hc : Operator.ofChar? c ≠ some .or)
    {left : List Piece} {run : List Text} (h : alternatives left = [run]) (right : List Piece) :
    alternatives (left ++ .separator c :: right) =
      (alternatives right).modifyHead (run ++ ·) := by
  induction left generalizing run with
  | nil =>
      cases h
      rw [List.nil_append, alternatives, if_neg hc]
      cases alternatives right with
      | nil => rfl
      | cons _ _ => rfl
  | cons piece rest ih =>
      rw [List.cons_append]
      cases piece with
      | segment s =>
          rw [alternatives] at h ⊢
          cases halts : alternatives rest with
          | nil => exact absurd halts (alternatives_ne_nil rest)
          | cons first others =>
              rw [halts] at h
              cases h
              rw [ih halts, List.modifyHead_modifyHead]
              rfl
      | separator d =>
          rw [alternatives] at h ⊢
          split at h
          · cases List.cons.inj h with
            | intro _ hnil => exact absurd hnil (alternatives_ne_nil rest)
          · rename_i hd
            rw [if_neg hd]
            exact ih h

end Piece

namespace Query

variable {query : Query}

def ValidTerms (query : Query) : Prop :=
  ∀ leaf ∈ query.leaves, ValidTerm leaf.term

instance (query : Query) : Decidable query.ValidTerms :=
  inferInstanceAs (Decidable (∀ leaf ∈ query.leaves, ValidTerm leaf.term))

/-!
# Pieces of a written query
-/

theorem avoids_isSeparator_render {leaf : Leaf} (h : ValidTerm leaf.term) :
    Avoids isSeparator leaf.query.render := by
  rcases leaf with ⟨negated, term⟩
  have hterm := avoids_isSeparator_of_isOperatorChar h.operatorFree
  cases negated with
  | false => exact hterm
  | true => exact avoids_cons.mpr ⟨by decide, hterm⟩

theorem alternatives_render_leaf {leaf : Leaf} (h : ValidTerm leaf.term) :
    Piece.alternatives (Piece.ofText leaf.query.render) = [[leaf.query.render]] := by
  rw [Piece.ofText_of_avoids (avoids_isSeparator_render h), Piece.alternatives_segment]

theorem alternatives_render_of_orFree (h : query.orFree = true) (hvalid : query.ValidTerms) :
    Piece.alternatives (Piece.ofText query.render) =
      [query.leaves.map fun leaf => leaf.query.render] := by
  induction query with
  | filter term =>
      exact alternatives_render_leaf (hvalid ⟨false, term⟩ List.mem_cons_self)
  | not term =>
      exact alternatives_render_leaf (hvalid ⟨true, term⟩ List.mem_cons_self)
  | and left right ihleft ihright =>
      rw [orFree, Bool.and_eq_true] at h
      rw [ValidTerms, leaves, List.forall_mem_append] at hvalid
      have hleft := ihleft h.left hvalid.left
      have hright := ihright h.right hvalid.right
      rw [render, Piece.ofText_append_separator (by decide),
        Piece.alternatives_append_and (by decide) hleft, hright, leaves, List.map_append]
      rfl
  | or left right _ _ => cases h

theorem alternatives_render (h : query.flat = true) (hvalid : query.ValidTerms) :
    Piece.alternatives (Piece.ofText query.render) =
      query.alternatives.map fun run => run.map fun leaf => leaf.query.render := by
  induction query, h using flat_induction with
  | orFree query horFree =>
      rw [alternatives_render_of_orFree horFree hvalid, alternatives_of_orFree horFree]
      rfl
  | or left right _ _ ihleft ihright =>
      rw [ValidTerms, leaves, List.forall_mem_append] at hvalid
      rw [render, Piece.ofText_append_separator (by decide),
        Piece.alternatives_append_or (by decide), ihleft hvalid.left, ihright hvalid.right,
        alternatives, List.map_append]

theorem validTerm_of_mem_alternatives (hvalid : query.ValidTerms) {run : List Leaf} {leaf : Leaf}
    (hrun : run ∈ query.alternatives) (hleaf : leaf ∈ run) : ValidTerm leaf.term := by
  apply hvalid
  rw [← flatten_alternatives]
  exact List.mem_flatten.mpr ⟨run, hrun, hleaf⟩

/-- Parsing the written form brings back the alternatives, grouped to the left. -/
theorem exists_parse_render (h : query.flat = true) (hvalid : query.ValidTerms) :
    ∃ tree, parse query.render = .ok (some tree) ∧ tree.leftNested = true ∧
      tree.alternatives = query.alternatives := by
  have hspells : List.Forall₂ (List.Forall₂ Spells)
      (Piece.alternatives (Piece.ofText query.render))
      (query.alternatives.map fun run => run.map Leaf.query) := by
    rw [alternatives_render h hvalid, List.forall₂_map_left_iff, List.forall₂_map_right_iff,
      List.forall₂_same]
    intro run hrun
    rw [List.forall₂_map_left_iff, List.forall₂_map_right_iff, List.forall₂_same]
    intro leaf hleaf
    exact spells_render (validTerm_of_mem_alternatives hvalid hrun hleaf)
  rcases parse_of_leaves hspells with ⟨tree, htree, hparse⟩
  exact ⟨tree, hparse, leftNested_of_ofAlternatives htree⟩

/-!
# Parsed trees
-/

theorem exists_mem_of_forall₂ {α β : Type} {R : α → β → Prop} {entries : List α}
    {images : List β} (h : List.Forall₂ R entries images) {b : β} (hb : b ∈ images) :
    ∃ a ∈ entries, R a b := by
  induction h with
  | nil => cases hb
  | cons hfirst _ ih =>
      rcases List.mem_cons.mp hb with heq | hb
      · subst heq
        exact ⟨_, List.mem_cons_self, hfirst⟩
      · rcases ih hb with ⟨a, ha, hab⟩
        exact ⟨a, List.mem_cons_of_mem _ ha, hab⟩

theorem alternatives_of_parse {text : Text} (h : parse text = .ok (some query)) :
    query.leftNested = true ∧
      List.Forall₂ (List.Forall₂ fun s leaf => Spells s (Leaf.query leaf))
        (Piece.alternatives (Piece.ofText text)) query.alternatives := by
  have hruns : ∃ runs : List (List Leaf),
      List.Forall₂ (List.Forall₂ fun s leaf => Spells s (Leaf.query leaf))
        (Piece.alternatives (Piece.ofText text)) runs := by
    apply exists_forall₂
    intro run hrun
    apply exists_forall₂
    intro s hs
    rcases spells_of_parse h s (Piece.mem_segments.mpr (Piece.mem_of_mem_alternatives hrun hs)) with
      ⟨tree, hspells⟩
    rcases exists_leaf_of_spells hspells with ⟨leaf, rfl⟩
    exact ⟨leaf, hspells⟩
  rcases hruns with ⟨runs, hruns⟩
  have hleaves : List.Forall₂ (List.Forall₂ Spells) (Piece.alternatives (Piece.ofText text))
      (runs.map fun run => run.map Leaf.query) := by
    rw [List.forall₂_map_right_iff]
    refine hruns.imp ?_
    intro segments leaves hspells
    exact List.forall₂_map_right_iff.mpr hspells
  -- These leaves fold to a tree, and the parser has no other answer than this tree.
  rcases parse_of_leaves hleaves with ⟨tree, htree, hparse⟩
  cases h.symm.trans hparse
  rcases leftNested_of_ofAlternatives htree with ⟨hnested, halternatives⟩
  rw [halternatives]
  exact ⟨hnested, hruns⟩

theorem validTerms_of_parse {text : Text} (h : parse text = .ok (some query)) :
    query.ValidTerms := by
  intro leaf hleaf
  rw [← flatten_alternatives, List.mem_flatten] at hleaf
  rcases hleaf with ⟨run, hrun, hleaf⟩
  rcases exists_mem_of_forall₂ (alternatives_of_parse h).right hrun with ⟨segments, hsegments, hall⟩
  rcases exists_mem_of_forall₂ hall hleaf with ⟨s, hs, hspells⟩
  have hsegment := Piece.mem_of_mem_alternatives hsegments hs
  exact validTerm_of_spells ((Piece.alternating_ofText text).avoids hsegment) hspells

theorem eq_of_alternatives_eq {other : Query} (hquery : query.leftNested = true)
    (hother : other.leftNested = true) (h : query.alternatives = other.alternatives) :
    query = other := by
  have hquery := ofAlternatives_alternatives hquery
  have hother := ofAlternatives_alternatives hother
  rw [h] at hquery
  exact Option.some.inj (hquery.symm.trans hother)

/-- Parsing undoes writing up to grouping, which it moves to the left, and writing undoes parsing. -/
theorem parse_render :
    (∀ query : Query, query.ValidTerms → query.flat = true →
      ∃ tree, parse query.render = .ok (some tree) ∧ tree.leaves = query.leaves ∧
        tree.leftNested = true ∧ (∀ assignment, tree.holds assignment = query.holds assignment) ∧
        (tree = query ↔ query.leftNested = true)) ∧
    ∀ text query, parse text = .ok (some query) →
      query.leftNested = true ∧ query.ValidTerms ∧ parse query.render = .ok (some query) := by
  constructor
  · intro query hvalid hflat
    rcases exists_parse_render hflat hvalid with ⟨tree, hparse, hnested, halternatives⟩
    refine ⟨tree, hparse, ?_, hnested, ?_, ?_⟩
    · rw [← flatten_alternatives, halternatives, flatten_alternatives]
    · intro assignment
      rw [holds_of_flat assignment (flat_of_leftNested hnested), holds_of_flat assignment hflat,
        halternatives]
    · constructor
      · intro h
        rw [← h]
        exact hnested
      · intro hquery
        exact eq_of_alternatives_eq hnested hquery halternatives
  · intro text query hparse
    have hnested := (alternatives_of_parse hparse).left
    have hvalid := validTerms_of_parse hparse
    rcases exists_parse_render (flat_of_leftNested hnested) hvalid with
      ⟨tree, htree, htreeNested, halternatives⟩
    rw [eq_of_alternatives_eq htreeNested hnested halternatives] at htree
    exact ⟨hnested, hvalid, htree⟩

theorem parse_render_regrouped :
    (∃ tree, parse "a b&!éß&4*,x".toList = .ok (some tree) ∧ tree.leftNested = true ∧
      tree ≠ .or (.and (.filter "a b".toList) (.and (.not "éß".toList) (.filter "4*".toList)))
        (.filter "x".toList)) ∧
    parse "fire&!4*,x".toList =
      .ok (some (.or (.and (.filter "fire".toList) (.not "4*".toList)) (.filter "x".toList))) := by
  constructor
  · rcases parse_render.left
        (.or (.and (.filter "a b".toList) (.and (.not "éß".toList) (.filter "4*".toList)))
          (.filter "x".toList)) (by decide +kernel) rfl with
      ⟨tree, hparse, _, hnested, _, hiff⟩
    refine ⟨tree, hparse, hnested, ?_⟩
    intro h
    cases hiff.mp h
  · have hparse : parse " Fire & ! 4* ; x".toList =
        .ok (some (.or (.and (.filter "fire".toList) (.not "4*".toList)) (.filter "x".toList))) := by
      decide +kernel
    exact (parse_render.right _ _ hparse).right.right

end Query
end Polyquery
