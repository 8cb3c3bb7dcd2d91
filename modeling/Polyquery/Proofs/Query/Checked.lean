import Polyquery.Proofs.Query.Rendering
import Polyquery.Query.Check

/-!
# Checked queries

A text that passes the check has no white space.  Nothing is trimmed from its segments then, and a negation
stands directly in front of its term, so the leaves of the query are the segments as they are written.
-/

namespace Polyquery

open Text Unicode

def Leaf.ofSegment : Text → Leaf
  | '!' :: term => { negated := true, term := lower term }
  | term => { negated := false, term := lower term }

/-!
# White space in checked texts
-/

namespace Check

theorem firstBlank?_eq_none_iff {offset : Nat} {text : Text} :
    firstBlank? offset text = none ↔ Avoids isBlank text := by
  induction text generalizing offset with
  | nil => simp [firstBlank?, avoids_nil]
  | cons c rest ih =>
      rw [firstBlank?, avoids_cons, ← @ih (offset + c.utf8Size)]
      cases isBlank c with
      | false => simp
      | true => simp

end Check

namespace Query

theorem avoids_isBlank_of_check {text : Text} (h : check text = .ok ()) : Avoids isBlank text := by
  rw [← @Check.firstBlank?_eq_none_iff 0]
  cases hblank : Check.firstBlank? 0 text with
  | none => rfl
  | some position =>
      rw [check, hblank] at h
      cases h

/-!
# Segments as leaves
-/

theorem trimmed_of_avoids {text : Text} (h : Avoids isBlank text) : trimmed text = text :=
  trimmed_eq_self h.startsOutside h.endsOutside

theorem ofSegment_of_plain {segment : Text} (h : '!' ∉ segment) :
    Leaf.ofSegment segment = { negated := false, term := lower segment } := by
  unfold Leaf.ofSegment
  split
  · exact absurd List.mem_cons_self h
  · rfl

theorem eq_ofSegment_of_spells {segment : Text} {leaf : Leaf} (hblank : Avoids isBlank segment)
    (h : Spells segment leaf.query) : leaf = Leaf.ofSegment segment := by
  have htrim := trimmed_of_avoids hblank
  rcases leaf with ⟨negated, word⟩
  cases negated with
  | false =>
      cases h with
      | @filter term _ hplain hterm =>
          cases htrim.symm.trans hterm
          exact (ofSegment_of_plain hplain).symm
  | true =>
      cases h with
      | @not between term _ _ hbetween _ hterm =>
          cases htrim.symm.trans hterm
          have hrest := (avoids_append.mp (avoids_cons.mp hblank).right).left
          rw [eq_nil_of_isBlankText hrest hbetween]
          rfl

end Query

theorem Piece.avoids_of_mem_ofText {p : Char → Bool} {text segment : Text} (h : Avoids p text)
    (hsegment : .segment segment ∈ Piece.ofText text) : Avoids p segment := by
  intro c hc
  apply h c
  rw [← Piece.joined_ofText text, Piece.joined, List.mem_flatMap]
  exact ⟨.segment segment, hsegment, hc⟩

theorem eq_map_of_forall₂ {α β : Type} {R : α → β → Prop} {f : α → β} {entries : List α}
    {images : List β} (h : List.Forall₂ R entries images)
    (hf : ∀ a ∈ entries, ∀ b, R a b → b = f a) : images = entries.map f := by
  induction h with
  | nil => rfl
  | cons hfirst _ ih =>
      rw [List.map_cons, hf _ List.mem_cons_self _ hfirst,
        ih fun a ha => hf a (List.mem_cons_of_mem _ ha)]

namespace Query

variable {text : Text} {query : Query}

theorem alternatives_of_checked (hblank : Avoids isBlank text)
    (h : parse text = .ok (some query)) :
    query.alternatives =
      (Piece.alternatives (Piece.ofText text)).map fun run => run.map Leaf.ofSegment := by
  apply eq_map_of_forall₂ (alternatives_of_parse h).right
  intro run hrun leaves hleaves
  apply eq_map_of_forall₂ hleaves
  intro segment hsegment leaf hspells
  have hpiece := Piece.mem_of_mem_alternatives hrun hsegment
  exact eq_ofSegment_of_spells (Piece.avoids_of_mem_ofText hblank hpiece) hspells

theorem leaves_of_checked (hblank : Avoids isBlank text) (h : parse text = .ok (some query)) :
    query.leaves = (Piece.segments text).map Leaf.ofSegment := by
  rw [← flatten_alternatives, alternatives_of_checked hblank h, ← List.map_flatten,
    Piece.flatten_alternatives, Piece.segments]

end Query
end Polyquery
