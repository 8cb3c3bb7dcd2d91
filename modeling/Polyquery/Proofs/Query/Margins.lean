import Polyquery.Proofs.Query.Marks
import Polyquery.Proofs.Query.Rendering

/-!
# White space around terms

The parser skips all white space around the terms of a text, but only spaces and line breaks are marks that a
split keeps out of the core of a segment.  Where no other white space stands around a term, the leaf that the
parser makes of a segment splits as the segment does, up to case.  Elsewhere the core of the segment is longer.
-/

namespace Polyquery

open Text Unicode

def isMarginal (c : Char) : Bool :=
  isBlank c || c == '!'

/-- The white space at the ends of a segment, and behind a negation that it begins with, is spaces and line
breaks only. -/
def PlainlySpaced (segment : Text) : Prop :=
  ∀ c ∈ segment.takeWhile isMarginal ++ takeTrailing isBlank segment,
    isBlank c = true → c = ' ' ∨ c = '\n'

instance (segment : Text) : Decidable (PlainlySpaced segment) :=
  List.decidableBAll (fun c => isBlank c = true → c = ' ' ∨ c = '\n')
    (segment.takeWhile isMarginal ++ takeTrailing isBlank segment)

/-- The segment and the term of its leaf split into the same core, up to case, with marks of the same
meaning. -/
structure SameTerm (segment term : Text) : Prop where
  core : (Segment.ofText term).core = lower (Segment.ofText segment).core
  searchType : (Segment.ofText term).searchType = (Segment.ofText segment).searchType
  isTag : (Segment.ofText term).isTag = (Segment.ofText segment).isTag

namespace Segment

/-!
# White space around a term
-/

theorem isLeadChar_iff_of_isBlank {c : Char} (h : isBlank c = true) :
    isLeadChar c = true ↔ c = ' ' ∨ c = '\n' := by
  have hcode : ∀ d : Char, c = d ↔ c.toNat = d.toNat := fun d => Char.toNat_inj.symm
  rw [isBlank, covered_iff] at h
  simp only [blanks, List.mem_cons, List.not_mem_nil, or_false, exists_eq_or_imp,
    exists_eq_left] at h
  simp only [isLeadChar, Bool.or_eq_true, beq_iff_eq, hcode, Char.reduceToNat,
    Char.isDigit_iff_toNat]
  omega

theorem isTrailChar_iff_of_isBlank {c : Char} (h : isBlank c = true) :
    isTrailChar c = true ↔ c = ' ' ∨ c = '\n' := by
  have hcode : ∀ d : Char, c = d ↔ c.toNat = d.toNat := fun d => Char.toNat_inj.symm
  rw [isBlank, covered_iff] at h
  simp only [blanks, List.mem_cons, List.not_mem_nil, or_false, exists_eq_or_imp,
    exists_eq_left] at h
  simp only [isTrailChar, Bool.or_eq_true, beq_iff_eq, hcode, Char.reduceToNat,
    Char.isDigit_iff_toNat]
  omega

theorem isLeadChar_eq_isTrailChar {c : Char} (h : isBlank c = true) :
    isLeadChar c = isTrailChar c := by
  rw [Bool.eq_iff_iff, isLeadChar_iff_of_isBlank h, isTrailChar_iff_of_isBlank h]

structure Surrounds (before after term : Text) : Prop where
  nonempty : term ≠ []
  first : StartsOutside isMarginal term
  last : EndsOutside isBlank term
  before : ∀ c ∈ before, isMarginal c = true
  after : ∀ c ∈ after, isBlank c = true

variable {before after term : Text}

theorem Surrounds.plainlySpaced_iff (h : Surrounds before after term) :
    PlainlySpaced (before ++ (term ++ after)) ↔
      (∀ c ∈ before, isLeadChar c = true) ∧ ∀ c ∈ after, isTrailChar c = true := by
  have hfirst : StartsOutside isMarginal (term ++ after) :=
    (startsOutside_append h.nonempty).mpr h.first
  have hlast : EndsOutside isBlank (before ++ term) :=
    (endsOutside_append h.nonempty).mpr h.last
  rw [PlainlySpaced, takeWhile_append_run h.before hfirst, ← List.append_assoc,
    takeTrailing_append_run hlast h.after, List.forall_mem_append]
  refine and_congr ?_ ?_
  · refine forall₂_congr fun c hc => ?_
    have hmarginal := h.before c hc
    rw [isMarginal, Bool.or_eq_true, beq_iff_eq] at hmarginal
    rcases hmarginal with hblank | rfl
    · rw [isLeadChar_iff_of_isBlank hblank, forall_prop_of_true hblank]
    · decide
  · refine forall₂_congr fun c hc => ?_
    have hblank := h.after c hc
    rw [isTrailChar_iff_of_isBlank hblank, forall_prop_of_true hblank]

/-!
# Plain white space
-/

theorem searchType_congr {a b : Segment} (hlead : moveMarker ∈ a.lead ↔ moveMarker ∈ b.lead)
    (htrail : ∀ c, (c.isDigit || c == '-' || c == '*') = true → (c ∈ a.trail ↔ c ∈ b.trail)) :
    a.searchType = b.searchType := by
  have hmove : a.lead.contains moveMarker = b.lead.contains moveMarker := by
    rw [Bool.eq_iff_iff, List.contains_iff_mem, List.contains_iff_mem]
    exact hlead
  have hsearch : (a.trail.any fun c => c.isDigit || c == '-' || c == '*') =
      b.trail.any fun c => c.isDigit || c == '-' || c == '*' := by
    rw [Bool.eq_iff_iff, List.any_eq_true, List.any_eq_true]
    exact exists_congr fun c => and_congr_left fun hc => htrail c hc
  rw [searchType, searchType, hmove, hsearch]

theorem isTag_congr {a b : Segment} (hlead : tagMarker ∈ a.lead ↔ tagMarker ∈ b.lead) :
    a.isTag = b.isTag := by
  rw [isTag, isTag, Bool.eq_iff_iff, List.contains_iff_mem, List.contains_iff_mem]
  exact hlead

theorem ofText_of_leads {text : Text} (h : ∀ c ∈ text, isLeadChar c = true) :
    ofText text = { lead := text, core := [], trail := [] } := by
  rw [ofText, List.takeWhile_eq_self_iff.mpr h, List.dropWhile_eq_nil_iff.mpr h]
  rfl

theorem ofText_surrounded (hterm : term.dropWhile isLeadChar ≠ [])
    (hbefore : ∀ c ∈ before, isLeadChar c = true) (hafter : ∀ c ∈ after, isTrailChar c = true) :
    ofText (before ++ (term ++ after)) =
      { lead := before ++ (ofText term).lead, core := (ofText term).core,
        trail := (ofText term).trail ++ after } := by
  have hlead : ∀ c ∈ before ++ (ofText term).lead, isLeadChar c = true :=
    List.forall_mem_append.mpr ⟨hbefore, fun c hc => isLeadChar_of_mem_lead hc⟩
  have htrail : ∀ c ∈ (ofText term).trail ++ after, isTrailChar c = true :=
    List.forall_mem_append.mpr ⟨fun c hc => isTrailChar_of_mem_trail hc, hafter⟩
  have hrest : term.dropWhile isLeadChar = (ofText term).core ++ (ofText term).trail :=
    (dropTrailing_append_takeTrailing isTrailChar _).symm
  have hstart : StartsOutside isLeadChar
      ((ofText term).core ++ ((ofText term).trail ++ after)) := by
    rw [← List.append_assoc, ← hrest, startsOutside_append hterm]
    exact startsOutside_dropWhile isLeadChar term
  have htext : before ++ (term ++ after) =
      (before ++ (ofText term).lead) ++
        ((ofText term).core ++ ((ofText term).trail ++ after)) := by
    conv_lhs => rw [← lead_append_core_append_trail term]
    simp only [List.append_assoc]
  have hend := core_endsOutside term
  rw [htext, ofText, takeWhile_append_run hlead hstart, dropWhile_append_run hlead hstart,
    dropTrailing_append_run hend htrail, takeTrailing_append_run hend htrail]

theorem marks_surrounded (hbefore : ∀ c ∈ before, isLeadChar c = true)
    (hafter : ∀ c ∈ after, isLeadChar c = true ∧ isTrailChar c = true) :
    (ofText (before ++ (term ++ after))).core = (ofText term).core ∧
      ∀ c, c ∉ before → c ∉ after →
        (c ∈ (ofText (before ++ (term ++ after))).lead ↔ c ∈ (ofText term).lead) ∧
        (c ∈ (ofText (before ++ (term ++ after))).trail ↔ c ∈ (ofText term).trail) := by
  by_cases hterm : term.dropWhile isLeadChar = []
  · have hleads : ∀ c ∈ term, isLeadChar c = true := List.dropWhile_eq_nil_iff.mp hterm
    have hall : ∀ c ∈ before ++ (term ++ after), isLeadChar c = true :=
      List.forall_mem_append.mpr ⟨hbefore,
        List.forall_mem_append.mpr ⟨hleads, fun c hc => (hafter c hc).left⟩⟩
    rw [ofText_of_leads hall, ofText_of_leads hleads]
    refine ⟨rfl, ?_⟩
    intro c hcbefore hcafter
    rw [List.mem_append, List.mem_append, or_iff_right hcbefore, or_iff_left hcafter]
    exact ⟨Iff.rfl, Iff.rfl⟩
  · rw [ofText_surrounded hterm hbefore fun c hc => (hafter c hc).right]
    refine ⟨rfl, ?_⟩
    intro c hcbefore hcafter
    rw [List.mem_append, List.mem_append, or_iff_right hcbefore, or_iff_left hcafter]
    exact ⟨Iff.rfl, Iff.rfl⟩

theorem sameTerm_of_plain (h : Surrounds before after term)
    (hbefore : ∀ c ∈ before, isLeadChar c = true) (hafter : ∀ c ∈ after, isTrailChar c = true) :
    SameTerm (before ++ (term ++ after)) (lower term) := by
  have hplain : ∀ c ∈ after, isLeadChar c = true ∧ isTrailChar c = true := by
    intro c hc
    rw [isLeadChar_eq_isTrailChar (h.after c hc)]
    exact ⟨hafter c hc, hafter c hc⟩
  rcases @marks_surrounded before after term hbefore hplain with ⟨hcore, hmarks⟩
  -- a mark that says how a term is read is neither white space nor a negation
  have hmeaning : ∀ c, isMarginal c = false →
      (c ∈ (ofText (before ++ (term ++ after))).lead ↔ c ∈ (ofText term).lead) ∧
      (c ∈ (ofText (before ++ (term ++ after))).trail ↔ c ∈ (ofText term).trail) := by
    intro c hc
    rw [isMarginal, Bool.or_eq_false_iff] at hc
    apply hmarks c
    · intro hmem
      have hmarginal := h.before c hmem
      rw [isMarginal, hc.left, hc.right] at hmarginal
      cases hmarginal
    · intro hmem
      rw [h.after c hmem] at hc
      cases hc.left
  have hfigures : ∀ c : Char, (c.isDigit || c == '-' || c == '*') = true →
      isMarginal c = false := by
    intro c hc
    have hmark : isTrailChar c = true := by
      simp only [isTrailChar, Bool.or_eq_true] at hc ⊢
      tauto
    have hblank : isBlank c = false := by
      by_contra hblank
      rcases (isTrailChar_iff_of_isBlank (by simpa using hblank)).mp hmark with rfl | rfl
      · exact absurd hc (by decide)
      · exact absurd hc (by decide)
    rw [isMarginal, hblank, Bool.false_or, beq_eq_false_iff_ne]
    rintro rfl
    exact absurd hc (by decide)
  have hlower := ofText_lower term
  refine ⟨?_, ?_, ?_⟩
  · rw [hlower, hcore]
  · rw [hlower, searchType_with_core]
    refine (searchType_congr (hmeaning _ (by decide)).left ?_).symm
    intro c hc
    exact (hmeaning c (hfigures c hc)).right
  · rw [hlower, isTag_with_core]
    exact (isTag_congr (hmeaning _ (by decide)).left).symm

/-!
# Other white space

White space that is no mark ends up in the core, which is then longer than that of the term.
-/

theorem core_of_dropWhile_eq {text rest : Text} (h : text.dropWhile isLeadChar = rest) :
    (ofText text).core = dropTrailing isTrailChar rest := by
  rw [ofText, h]

theorem exists_core_of_odd_after (hbefore : ∀ c ∈ before, isLeadChar c = true) {c : Char}
    (hc : c ∈ after) (hlead : isLeadChar c = false) (htrail : isTrailChar c = false) :
    ∃ right, right ≠ [] ∧
      (ofText (before ++ (term ++ after))).core = (ofText term).core ++ right := by
  by_cases hterm : term.dropWhile isLeadChar = []
  · -- the term has only marks that go in front, and the core begins behind it
    have hdrop : (before ++ (term ++ after)).dropWhile isLeadChar =
        after.dropWhile isLeadChar := by
      rw [← List.append_assoc, List.dropWhile_append_of_pos]
      exact List.forall_mem_append.mpr ⟨hbefore, List.dropWhile_eq_nil_iff.mp hterm⟩
    have hmem : c ∈ after.dropWhile isLeadChar := by
      rw [← @List.takeWhile_append_dropWhile _ isLeadChar after] at hc
      rcases List.mem_append.mp hc with hc | hc
      · rw [List.mem_takeWhile_imp hc] at hlead
        cases hlead
      · exact hc
    refine ⟨dropTrailing isTrailChar (after.dropWhile isLeadChar),
      dropTrailing_ne_nil hmem htrail, ?_⟩
    rw [core_of_dropWhile_eq hdrop, ofText_of_leads (List.dropWhile_eq_nil_iff.mp hterm),
      List.nil_append]
  · have hdrop : (before ++ (term ++ after)).dropWhile isLeadChar =
        (ofText term).core ++ ((ofText term).trail ++ after) := by
      rw [List.dropWhile_append_of_pos hbefore, List.dropWhile_append,
        if_neg (by simpa using hterm), ← List.append_assoc]
      congr 1
      exact (dropTrailing_append_takeTrailing _ _).symm
    refine ⟨dropTrailing isTrailChar ((ofText term).trail ++ after),
      dropTrailing_ne_nil (List.mem_append_right _ hc) htrail, ?_⟩
    rw [core_of_dropWhile_eq hdrop, dropTrailing_append (core_endsOutside term)]

theorem exists_core_of_odd_before {run rest : Text} {c : Char}
    (hrun : ∀ d ∈ run, isLeadChar d = true) (hlead : isLeadChar c = false)
    (htrail : isTrailChar c = false) :
    ∃ left right, left ≠ [] ∧
      (ofText (run ++ c :: rest ++ (term ++ after))).core =
        left ++ ((ofText term).core ++ right) := by
  have hdrop : (run ++ c :: rest ++ (term ++ after)).dropWhile isLeadChar =
      c :: (rest ++ (term ++ after)) := by
    rw [List.append_assoc, List.cons_append]
    exact dropWhile_append_run hrun (startsOutside_cons.mpr hlead)
  by_cases hcore : (ofText term).core = []
  · refine ⟨dropTrailing isTrailChar (c :: (rest ++ (term ++ after))), [],
      dropTrailing_ne_nil List.mem_cons_self htrail, ?_⟩
    rw [core_of_dropWhile_eq hdrop, hcore, List.append_nil, List.append_nil]
  · have hend : EndsOutside isTrailChar
        (c :: (rest ++ (ofText term).lead) ++ (ofText term).core) :=
      (endsOutside_append hcore).mpr (core_endsOutside term)
    have htext : c :: (rest ++ (term ++ after)) =
        c :: (rest ++ (ofText term).lead) ++ (ofText term).core ++
          ((ofText term).trail ++ after) := by
      conv_lhs => rw [← lead_append_core_append_trail term]
      simp only [List.append_assoc, List.cons_append]
    refine ⟨_, dropTrailing isTrailChar ((ofText term).trail ++ after),
      List.cons_ne_nil c (rest ++ (ofText term).lead), ?_⟩
    rw [core_of_dropWhile_eq hdrop, htext, dropTrailing_append hend, List.append_assoc]

/-- The core of the term stands in the core of the segment, with more around it. -/
theorem exists_core_of_odd (h : Surrounds before after term)
    (hodd : ¬((∀ c ∈ before, isLeadChar c = true) ∧ ∀ c ∈ after, isTrailChar c = true)) :
    ∃ left right, left ++ right ≠ [] ∧
      (ofText (before ++ (term ++ after))).core = left ++ ((ofText term).core ++ right) := by
  by_cases hbefore : ∀ c ∈ before, isLeadChar c = true
  · have hafter : ¬∀ c ∈ after, isTrailChar c = true := fun hall => hodd ⟨hbefore, hall⟩
    push Not at hafter
    rcases hafter with ⟨c, hc, hmark⟩
    have htrail : isTrailChar c = false := by simpa using hmark
    have hlead : isLeadChar c = false := by
      rw [isLeadChar_eq_isTrailChar (h.after c hc), htrail]
    rcases @exists_core_of_odd_after before after term hbefore c hc hlead htrail with
      ⟨right, hne, hcore⟩
    exact ⟨[], right, hne, hcore⟩
  · have hsplit : ¬Avoids (fun c => !isLeadChar c) before := by
      intro havoids
      apply hbefore
      intro c hc
      simpa using havoids c hc
    rcases eq_append_of_not_avoids hsplit with ⟨run, c, rest, rfl, hrun, hc⟩
    have hlead : isLeadChar c = false := by simpa using hc
    have hblank : isBlank c = true := by
      have hmarginal := h.before c (List.mem_append_right run List.mem_cons_self)
      rw [isMarginal, Bool.or_eq_true, beq_iff_eq] at hmarginal
      rcases hmarginal with hblank | rfl
      · exact hblank
      · exact absurd hlead (by decide)
    have htrail : isTrailChar c = false := by
      rw [← isLeadChar_eq_isTrailChar hblank, hlead]
    have hleads : ∀ d ∈ run, isLeadChar d = true := by
      intro d hd
      simpa using hrun d hd
    rcases @exists_core_of_odd_before after term run rest c hleads hlead htrail with
      ⟨left, right, hne, hcore⟩
    exact ⟨left, right, List.append_ne_nil_of_left_ne_nil hne right, hcore⟩

theorem not_sameTerm_of_odd (h : Surrounds before after term)
    (hodd : ¬((∀ c ∈ before, isLeadChar c = true) ∧ ∀ c ∈ after, isTrailChar c = true)) :
    ¬SameTerm (before ++ (term ++ after)) (lower term) := by
  intro hsame
  rcases exists_core_of_odd h hodd with ⟨left, right, hne, hcore⟩
  have hlength := congrArg List.length hsame.core
  rw [ofText_lower, hcore] at hlength
  simp only [lower, length_lowerAfter_append [] []] at hlength
  have hpos : (lowerAfter [] left).length + (lowerAfter [] right).length ≠ 0 := by
    rw [← length_lowerAfter_append, Ne, List.length_eq_zero_iff]
    exact lowerAfter_ne_nil [] hne
  omega

theorem Surrounds.sameTerm_iff (h : Surrounds before after term) :
    SameTerm (before ++ (term ++ after)) (lower term) ↔
      PlainlySpaced (before ++ (term ++ after)) := by
  rw [h.plainlySpaced_iff]
  constructor
  · intro hsame
    by_contra hodd
    exact not_sameTerm_of_odd h hodd hsame
  · rintro ⟨hbefore, hafter⟩
    exact sameTerm_of_plain h hbefore hafter

end Segment

namespace Query

/-!
# Leaves and segments
-/

theorem exists_surrounds_of_spells {segment : Text} {leaf : Leaf} (h : Spells segment leaf.query) :
    ∃ before after term, segment = before ++ (term ++ after) ∧ leaf.term = lower term ∧
      Segment.Surrounds before after term := by
  rcases exists_blank_append_trimmed segment with ⟨before, after, hbefore, hafter, hsplit⟩
  have hstart := startsOutside_trimmed segment
  have hend := endsOutside_trimmed segment
  have hmarginal : ∀ {text : Text}, isBlankText text = true → ∀ c ∈ text, isMarginal c = true := by
    intro text htext c hc
    rw [isMarginal, isBlankText_iff.mp htext c hc]
    rfl
  have hfirst : ∀ {text : Text}, '!' ∉ text → StartsOutside isBlank text →
      StartsOutside isMarginal text := by
    intro text hplain hblank c hc
    rw [isMarginal, hblank c hc, Bool.false_or, beq_eq_false_iff_ne]
    rintro rfl
    exact hplain (List.mem_of_mem_head? hc)
  rcases leaf with ⟨negated, word⟩
  cases negated with
  | false =>
      cases h with
      | @filter term hne hplain htrim =>
          rw [htrim] at hsplit hstart hend
          exact ⟨before, after, term, hsplit, rfl, hne, hfirst hplain hstart, hend,
            hmarginal hbefore, isBlankText_iff.mp hafter⟩
  | true =>
      cases h with
      | @not blank term hne hplain hblank hopen htrim =>
          rw [htrim] at hsplit hend
          rw [← List.cons_append, endsOutside_append hne] at hend
          refine ⟨before ++ '!' :: blank, after, term, ?_, rfl, hne, hfirst hplain hopen, hend, ?_,
            isBlankText_iff.mp hafter⟩
          · rw [hsplit]
            simp only [List.append_assoc, List.cons_append]
          · exact List.forall_mem_append.mpr ⟨hmarginal hbefore,
              List.forall_mem_cons.mpr ⟨by decide, hmarginal hblank⟩⟩

theorem sameTerm_iff_of_spells {segment : Text} {leaf : Leaf} (h : Spells segment leaf.query) :
    SameTerm segment leaf.term ↔ PlainlySpaced segment := by
  rcases exists_surrounds_of_spells h with ⟨before, after, term, rfl, hterm, hsurrounds⟩
  rw [hterm]
  exact hsurrounds.sameTerm_iff

/-- The segments of a text spell the leaves of its tree one by one.  A segment and its leaf name the same
term, with marks of the same meaning, exactly if the white space around the term is plain. -/
theorem leaves_read_segments {text : Text} {query : Query} (h : parse text = .ok (some query)) :
    List.Forall₂
      (fun segment leaf => Spells segment (Leaf.query leaf) ∧
        (SameTerm segment leaf.term ↔ PlainlySpaced segment))
      (Piece.segments text) query.leaves := by
  have hspells := List.rel_flatten (alternatives_of_parse h).right
  rw [Piece.flatten_alternatives, flatten_alternatives] at hspells
  refine hspells.imp ?_
  intro segment leaf hleaf
  exact ⟨hleaf, sameTerm_iff_of_spells hleaf⟩

/-- A sigma ends the term in front of a number as it ends the core alone, and a space behind a negation is
plain.  The space of an East Asian text is not. -/
theorem leaves_read_segments_sigma :
    parse "! 2ΟΔΟΣ1 &\u3000@fire".toList =
        .ok (some (.and (.not "2οδος1".toList) (.filter "@fire".toList))) ∧
      SameTerm "! 2ΟΔΟΣ1 ".toList "2οδος1".toList ∧
      ¬SameTerm "\u3000@fire".toList "@fire".toList := by
  have h : parse "! 2ΟΔΟΣ1 &\u3000@fire".toList =
      .ok (some (.and (.not "2οδος1".toList) (.filter "@fire".toList))) := by
    decide +kernel
  have hpairs := leaves_read_segments h
  have hsegments : Piece.segments "! 2ΟΔΟΣ1 &\u3000@fire".toList =
      ["! 2ΟΔΟΣ1 ".toList, "\u3000@fire".toList] := by
    decide +kernel
  rw [hsegments] at hpairs
  cases hpairs with
  | cons hfirst hrest =>
      cases hrest with
      | cons hsecond _ =>
          exact ⟨h, hfirst.right.mpr (by decide +kernel),
            fun hsame => absurd (hsecond.right.mp hsame) (by decide +kernel)⟩

/-- A tab in front of a move is white space to the parser, and to the split it is the beginning of the
term. -/
theorem not_sameTerm_tab :
    ¬∀ text query, parse text = .ok (some query) →
      List.Forall₂ (fun segment leaf => SameTerm segment (Leaf.term leaf)) (Piece.segments text)
        query.leaves := by
  intro hall
  have hparse : parse "\t@fire".toList = .ok (some (.filter "@fire".toList)) := by
    decide +kernel
  have hpairs := hall _ _ hparse
  have hsegments : Piece.segments "\t@fire".toList = ["\t@fire".toList] := by
    decide +kernel
  rw [hsegments] at hpairs
  cases hpairs with
  | cons hsame _ => exact absurd hsame.core (by decide +kernel)

end Query
end Polyquery
