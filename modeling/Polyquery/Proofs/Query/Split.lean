import Polyquery.Proofs.Query.Segments
import Polyquery.Proofs.Text.Slices

/-!
# Maximal splits

The marks in front of a term are taken as far as they go, and the marks behind it as far as they go in what
remains.  That determines the split, although a space, a line break, a dash and a digit may stand on either
side.

Another term can take the place of the core exactly if it neither begins with a leading mark nor ends with a
trailing one.  Otherwise an end of it joins the marks next to it.
-/

namespace Polyquery

namespace Text

variable {p : Char → Bool} {run rest body text : Text}

/-- The longest run of a class with which a text begins. -/
structure LongestLeading (p : Char → Bool) (run text : Text) : Prop where
  leads : run <+: text
  inside : ∀ c ∈ run, p c = true
  longest : ∀ other, other <+: text → (∀ c ∈ other, p c = true) → other.length ≤ run.length

structure LongestTrailing (p : Char → Bool) (run text : Text) : Prop where
  trails : run <:+ text
  inside : ∀ c ∈ run, p c = true
  longest : ∀ other, other <:+ text → (∀ c ∈ other, p c = true) → other.length ≤ run.length

theorem prefix_takeWhile (hrun : run <+: text) (hall : ∀ c ∈ run, p c = true) :
    run <+: text.takeWhile p := by
  rcases hrun with ⟨rest, rfl⟩
  rw [List.takeWhile_append_of_pos hall]
  exact List.prefix_append run (rest.takeWhile p)

theorem longestLeading_append_iff :
    LongestLeading p run (run ++ rest) ↔ (∀ c ∈ run, p c = true) ∧ StartsOutside p rest := by
  constructor
  · intro h
    refine ⟨h.inside, ?_⟩
    cases rest with
    | nil => exact avoids_nil.startsOutside
    | cons c tail =>
        rw [startsOutside_cons, Bool.eq_false_iff]
        intro hc
        -- with one more character the run would be longer
        have hlonger : run ++ [c] <+: run ++ c :: tail := ⟨tail, List.append_assoc run [c] tail⟩
        have hinside : ∀ d ∈ run ++ [c], p d = true := by
          intro d hd
          rcases List.mem_append.mp hd with hd | hd
          · exact h.inside d hd
          · rw [List.mem_singleton.mp hd]
            exact hc
        have hlength := h.longest (run ++ [c]) hlonger hinside
        rw [List.length_append, List.length_singleton] at hlength
        exact absurd hlength (Nat.not_succ_le_self run.length)
  · rintro ⟨hall, hrest⟩
    refine ⟨List.prefix_append run rest, hall, ?_⟩
    intro other hother hinside
    have hwithin := prefix_takeWhile hother hinside
    rw [takeWhile_append_run hall hrest] at hwithin
    exact hwithin.length_le

theorem longestTrailing_iff_reverse :
    LongestTrailing p run text ↔ LongestLeading p run.reverse text.reverse := by
  constructor
  · intro h
    refine ⟨List.reverse_prefix.mpr h.trails, ?_, ?_⟩
    · intro c hc
      exact h.inside c (List.mem_reverse.mp hc)
    · intro other hother hall
      have hsuffix : other.reverse <:+ text := by
        rw [← List.reverse_prefix, List.reverse_reverse]
        exact hother
      have hlength := h.longest other.reverse hsuffix fun c hc => hall c (List.mem_reverse.mp hc)
      rw [List.length_reverse] at hlength ⊢
      exact hlength
  · intro h
    refine ⟨List.reverse_prefix.mp h.leads, ?_, ?_⟩
    · intro c hc
      exact h.inside c (List.mem_reverse.mpr hc)
    · intro other hother hall
      have hlength := h.longest other.reverse (List.reverse_prefix.mpr hother)
        fun c hc => hall c (List.mem_reverse.mp hc)
      rw [List.length_reverse, List.length_reverse] at hlength
      exact hlength

theorem longestTrailing_append_iff :
    LongestTrailing p run (body ++ run) ↔ (∀ c ∈ run, p c = true) ∧ EndsOutside p body := by
  rw [longestTrailing_iff_reverse, List.reverse_append, longestLeading_append_iff,
    startsOutside_reverse]
  simp only [List.mem_reverse]

end Text

namespace Segment

open Text

/-!
# The split of a text
-/

structure MaximalSplit (text : Text) (segment : Segment) : Prop where
  whole : segment.lead ++ (segment.core ++ segment.trail) = text
  lead : LongestLeading isLeadChar segment.lead text
  trail : LongestTrailing isTrailChar segment.trail (segment.core ++ segment.trail)

theorem maximalSplit_iff {text : Text} {segment : Segment} :
    MaximalSplit text segment ↔ segment = ofText text := by
  constructor
  · rintro ⟨rfl, hlead, htrail⟩
    rcases longestLeading_append_iff.mp hlead with ⟨hleadMarks, hrest⟩
    rcases longestTrailing_append_iff.mp htrail with ⟨htrailMarks, hcore⟩
    rw [← List.append_assoc, (ofText_marks_append_iff hleadMarks htrailMarks).mpr ⟨hrest, hcore⟩]
  · rintro rfl
    refine ⟨lead_append_core_append_trail text, ?_, ?_⟩
    · conv_rhs => rw [← lead_append_core_append_trail text]
      exact longestLeading_append_iff.mpr
        ⟨fun c hc => isLeadChar_of_mem_lead hc, core_append_trail_startsOutside text⟩
    · exact longestTrailing_append_iff.mpr
        ⟨fun c hc => isTrailChar_of_mem_trail hc, core_endsOutside text⟩

theorem ofText_core (text : Text) :
    ofText (ofText text).core = { lead := [], core := (ofText text).core, trail := [] } := by
  have hmarks : ofText ([] ++ (ofText text).core ++ []) =
      { lead := [], core := (ofText text).core, trail := [] } ↔
        StartsOutside isLeadChar ((ofText text).core ++ []) ∧
          EndsOutside isTrailChar (ofText text).core :=
    ofText_marks_append_iff (by simp) (by simp)
  rw [List.append_nil, List.append_nil, List.nil_append] at hmarks
  exact hmarks.mpr ⟨core_startsOutside text, core_endsOutside text⟩

/-!
# Slices
-/

/-- The split with the text cut at bytes.  There is no result if a slice could not be taken. -/
def ofSlices? (text : Text) : Option Segment := do
  let rest := text.dropWhile isLeadChar
  let lead ← slice? 0 (byteSize text - byteSize rest) text
  let core := dropTrailing isTrailChar rest
  let trail ← tailAt? (byteSize core) rest
  return { lead := lead, core := core, trail := trail }

theorem ofSlices?_eq (text : Text) : ofSlices? text = some (ofText text) := by
  have hsplit : text.takeWhile isLeadChar ++ text.dropWhile isLeadChar = text :=
    List.takeWhile_append_dropWhile
  have hsize : byteSize text - byteSize (text.dropWhile isLeadChar) =
      byteSize (text.takeWhile isLeadChar) := by
    have happend := byteSize_append (text.takeWhile isLeadChar) (text.dropWhile isLeadChar)
    rw [hsplit] at happend
    omega
  have hlead := slice?_zero (text.takeWhile isLeadChar) (text.dropWhile isLeadChar)
  have htrail := tailAt?_append (dropTrailing isTrailChar (text.dropWhile isLeadChar))
    (takeTrailing isTrailChar (text.dropWhile isLeadChar))
  rw [hsplit] at hlead
  rw [dropTrailing_append_takeTrailing] at htrail
  simp only [ofSlices?, hsize, hlead, htrail]
  rfl

/-- A text has one maximal split, cutting the text at bytes finds it, and the core is not split again.  A term
in the place of the core leaves the marks as they are exactly if it neither begins with a leading mark nor ends
with a trailing one, and then it is read in the same way. -/
theorem splits_maximally (text : Text) :
    ofSlices? text = some (ofText text) ∧
    (∀ segment, MaximalSplit text segment ↔ segment = ofText text) ∧
    (ofText text).withCore (ofText text).core = text ∧
    ofText (ofText text).core = { lead := [], core := (ofText text).core, trail := [] } ∧
    ∀ term, term ≠ [] →
      (ofText ((ofText text).withCore term) = { ofText text with core := term } ↔
        StartsOutside isLeadChar term ∧ EndsOutside isTrailChar term) ∧
      (StartsOutside isLeadChar term → EndsOutside isTrailChar term →
        (ofText ((ofText text).withCore term)).searchType = (ofText text).searchType ∧
        (ofText ((ofText text).withCore term)).isTag = (ofText text).isTag) := by
  refine ⟨ofSlices?_eq text, fun _ => maximalSplit_iff, withCore_core_ofText text, ofText_core text, ?_⟩
  intro term hne
  have hiff := ofText_withCore_iff text hne
  refine ⟨hiff, ?_⟩
  intro hfirst hlast
  rw [hiff.mpr ⟨hfirst, hlast⟩]
  exact ⟨searchType_with_core _ _, isTag_with_core _ _⟩

def dashedRange : Text :=
  "-!@2 cp 10-20*".toList

theorem splits_maximally_dashedRange :
    "mr 2 mime".toList ≠ [] ∧ StartsOutside isLeadChar "mr 2 mime".toList ∧
      EndsOutside isTrailChar "mr 2 mime".toList ∧
      ofText "-!@2 mr 2 mime 10-20*".toList =
        { lead := "-!@2 ".toList, core := "mr 2 mime".toList, trail := " 10-20*".toList } ∧
      (ofText "-!@2 mr 2 mime 10-20*".toList).searchType = (ofText dashedRange).searchType ∧
      ofText "-!@2 cp9 10-20*".toList ≠
        { lead := "-!@2 ".toList, core := "cp9".toList, trail := " 10-20*".toList } := by
  have hsplit : ofText dashedRange =
      { lead := "-!@2 ".toList, core := "cp".toList, trail := " 10-20*".toList } := by
    decide
  have hne : "mr 2 mime".toList ≠ [] := by decide
  have hfirst : StartsOutside isLeadChar "mr 2 mime".toList := by decide
  have hlast : EndsOutside isTrailChar "mr 2 mime".toList := by decide
  rcases splits_maximally dashedRange with ⟨_, _, _, _, hreplaced⟩
  rcases hreplaced "mr 2 mime".toList hne with ⟨hiff, hkept⟩
  have hdigit := (hreplaced "cp9".toList (by decide)).left
  rw [hsplit] at hiff hdigit
  refine ⟨hne, hfirst, hlast, hiff.mpr ⟨hfirst, hlast⟩, ?_, ?_⟩
  · have htype := (hkept hfirst hlast).left
    rw [hsplit] at htype ⊢
    exact htype
  · intro h
    exact absurd (hdigit.mp h).right (by decide)

end Segment
end Polyquery
