import Polyquery.Proofs.Query.Pieces
import Polyquery.Query.Segment

/-!
# Segments and their cores

The split of a segment is maximal at both ends, so its core neither begins with a leading mark nor ends
with a trailing one.  Any term of that kind, and no other, can take the place of the core: the text that
results splits into the same marks around the new term.
-/

namespace Polyquery
namespace Segment

open Text

/-- A term that a split would leave whole between any marks. -/
structure FitsAsCore (term : Text) : Prop where
  nonempty : term ≠ []
  first : StartsOutside isLeadChar term
  last : EndsOutside isTrailChar term

/-!
# The parts of a split
-/

theorem isLeadChar_of_mem_lead {c : Char} {text : Text} (h : c ∈ (ofText text).lead) :
    isLeadChar c = true :=
  List.mem_takeWhile_imp h

theorem isTrailChar_of_mem_trail {c : Char} {text : Text} (h : c ∈ (ofText text).trail) :
    isTrailChar c = true :=
  mem_takeTrailing h

theorem core_startsOutside (text : Text) : StartsOutside isLeadChar (ofText text).core :=
  startsOutside_dropTrailing (startsOutside_dropWhile isLeadChar text)

theorem core_endsOutside (text : Text) : EndsOutside isTrailChar (ofText text).core :=
  endsOutside_dropTrailing isTrailChar (text.dropWhile isLeadChar)

theorem core_append_trail_startsOutside (text : Text) :
    StartsOutside isLeadChar ((ofText text).core ++ (ofText text).trail) := by
  rw [ofText, dropTrailing_append_takeTrailing]
  exact startsOutside_dropWhile isLeadChar text

theorem lead_append_core_append_trail (text : Text) :
    (ofText text).lead ++ ((ofText text).core ++ (ofText text).trail) = text := by
  rw [← List.append_assoc]
  exact withCore_core_ofText text

theorem hasTerm_iff {segment : Segment} :
    segment.hasTerm = true ↔ segment.core ≠ [] ∧ segment.isTag = false := by
  simp [hasTerm]

/-!
# Another core between the same marks
-/

theorem ofText_marks_append_iff {lead core trail : Text}
    (hlead : ∀ c ∈ lead, isLeadChar c = true) (htrail : ∀ c ∈ trail, isTrailChar c = true) :
    ofText (lead ++ core ++ trail) = { lead := lead, core := core, trail := trail } ↔
      StartsOutside isLeadChar (core ++ trail) ∧ EndsOutside isTrailChar core := by
  constructor
  · intro h
    have hrest := core_append_trail_startsOutside (lead ++ core ++ trail)
    have hlast := core_endsOutside (lead ++ core ++ trail)
    rw [h] at hrest hlast
    exact ⟨hrest, hlast⟩
  · rintro ⟨hrest, hcore⟩
    rw [List.append_assoc, ofText, takeWhile_append_run hlead hrest,
      dropWhile_append_run hlead hrest]
    rw [dropTrailing_append_run hcore htrail, takeTrailing_append_run hcore htrail]

theorem ofText_marks_append {lead core trail : Text}
    (hlead : ∀ c ∈ lead, isLeadChar c = true) (hcore : FitsAsCore core)
    (htrail : ∀ c ∈ trail, isTrailChar c = true) :
    ofText (lead ++ core ++ trail) = { lead := lead, core := core, trail := trail } := by
  rw [ofText_marks_append_iff hlead htrail, startsOutside_append hcore.nonempty]
  exact ⟨hcore.first, hcore.last⟩

/-- Only the core changes exactly if the term that takes its place has no mark at the end where it would be
taken for one. -/
theorem ofText_withCore_iff (text : Text) {term : Text} (hne : term ≠ []) :
    ofText ((ofText text).withCore term) = { ofText text with core := term } ↔
      StartsOutside isLeadChar term ∧ EndsOutside isTrailChar term := by
  have hlead : ∀ c ∈ (ofText text).lead, isLeadChar c = true := fun c hc => isLeadChar_of_mem_lead hc
  have htrail : ∀ c ∈ (ofText text).trail, isTrailChar c = true :=
    fun c hc => isTrailChar_of_mem_trail hc
  rw [← startsOutside_append hne]
  exact ofText_marks_append_iff hlead htrail

theorem ofText_withCore (text : Text) {term : Text} (hterm : FitsAsCore term) :
    ofText ((ofText text).withCore term) = { ofText text with core := term } :=
  (ofText_withCore_iff text hterm.nonempty).mpr ⟨hterm.first, hterm.last⟩

@[simp] theorem searchType_with_core (segment : Segment) (core : Text) :
    ({ segment with core := core } : Segment).searchType = segment.searchType := rfl

@[simp] theorem isTag_with_core (segment : Segment) (core : Text) :
    ({ segment with core := core } : Segment).isTag = segment.isTag := rfl

theorem hasTerm_with_core {segment : Segment} {core : Text} (hcore : core ≠ [])
    (hterm : segment.hasTerm = true) :
    ({ segment with core := core } : Segment).hasTerm = true := by
  rcases hasTerm_iff.mp hterm with ⟨_, htag⟩
  exact hasTerm_iff.mpr ⟨hcore, htag⟩

theorem avoids_withCore {p : Char → Bool} {text term : Text} (htext : Avoids p text)
    (hterm : Avoids p term) : Avoids p ((ofText text).withCore term) := by
  rw [← lead_append_core_append_trail text, avoids_append, avoids_append] at htext
  rcases htext with ⟨hlead, _, htrail⟩
  exact avoids_append.mpr ⟨avoids_append.mpr ⟨hlead, hterm⟩, htrail⟩

end Segment
end Polyquery
