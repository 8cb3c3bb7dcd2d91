import Polyquery.Proofs.Query.Machine
import Polyquery.Proofs.Query.Pieces

/-!
# Leaves and segments

A leaf of a query is spelled by one segment: a term, or a negation in front of a term, with white space
around each of the two.  The tokens of such a segment are the tokens of its leaf.  Any other segment stops
the parser before the next separator.
-/

namespace Polyquery

open Text Unicode

namespace Query

/-- Up to white space around it, the segment is a term, or a negation in front of one. -/
inductive Spells : Text → Query → Prop where
  | filter {segment term : Text} (hne : term ≠ []) (hplain : '!' ∉ term)
      (h : trimmed segment = term) : Spells segment (.filter (lower term))
  | not {segment blank term : Text} (hne : term ≠ []) (hplain : '!' ∉ term)
      (hblank : isBlankText blank = true) (hstart : StartsOutside isBlank term)
      (h : trimmed segment = '!' :: (blank ++ term)) : Spells segment (.not (lower term))

end Query

theorem avoids_isOperatorChar_iff {text : Text} :
    Avoids isOperatorChar text ↔ '!' ∉ text ∧ Avoids isSeparator text := by
  constructor
  · intro h
    constructor
    · intro hmem
      exact absurd (h '!' hmem) (by decide)
    · exact avoids_isSeparator_of_isOperatorChar h
  · rintro ⟨hplain, hsep⟩ c hc
    cases hop : isOperatorChar c with
    | false => rfl
    | true =>
        rcases isOperatorChar_iff.mp hop with rfl | hc'
        · exact absurd hc hplain
        · rw [hsep c hc] at hc'
          exact absurd hc' Bool.false_ne_true

theorem not_mem_of_isBlankText {c : Char} {text : Text} (h : isBlankText text = true)
    (hc : isBlank c = false) : c ∉ text := by
  intro hmem
  rw [isBlankText_iff.mp h c hmem] at hc
  exact absurd hc.symm Bool.false_ne_true

theorem avoids_isOperatorChar_of_isBlankText {text : Text} (h : isBlankText text = true) :
    Avoids isOperatorChar text := by
  intro c hc
  cases hop : isOperatorChar c with
  | false => rfl
  | true => exact absurd hc (not_mem_of_isBlankText h (isBlank_of_isOperatorChar hop))

namespace Query

theorem body_of_spells_filter {segment term : Text} (hsep : Avoids isSeparator segment)
    (hne : term ≠ []) (hplain : '!' ∉ term) (h : trimmed segment = term) :
    Token.body segment = [.filter (lower term)] := by
  rcases exists_blank_append_trimmed segment with ⟨before, after, hbefore, hafter, hsplit⟩
  rw [h] at hsplit
  have hmark : '!' ∉ segment := by
    rw [hsplit, List.mem_append, List.mem_append]
    rintro (hmem | hmem | hmem)
    · exact not_mem_of_isBlankText hbefore (by decide) hmem
    · exact hplain hmem
    · exact not_mem_of_isBlankText hafter (by decide) hmem
  have hblank : isBlankText segment = false := by
    cases hall : isBlankText segment with
    | false => rfl
    | true =>
        rw [trimmed, trimLeft_eq_nil_iff.mpr hall] at h
        exact absurd h.symm hne
  rw [Token.body_word (avoids_isOperatorChar_iff.mpr ⟨hmark, hsep⟩),
    Token.ofWord_of_not_blank hblank, h]

theorem body_of_spells_not {segment blank term : Text} (hsep : Avoids isSeparator segment)
    (hne : term ≠ []) (hplain : '!' ∉ term) (hblank : isBlankText blank = true)
    (hstart : StartsOutside isBlank term) (h : trimmed segment = '!' :: (blank ++ term)) :
    Token.body segment = [.not, .filter (lower term)] := by
  rcases exists_blank_append_trimmed segment with ⟨before, after, hbefore, hafter, hsplit⟩
  have hend : EndsOutside isBlank term := by
    have hall := endsOutside_trimmed segment
    rw [h, ← List.cons_append, endsOutside_append hne] at hall
    exact hall
  have hsegment : segment = before ++ '!' :: (blank ++ (term ++ after)) := by
    rw [hsplit, h, List.cons_append, List.append_assoc]
  have htrim : trimmed (blank ++ (term ++ after)) = term :=
    trimmed_blank_append hblank hne hstart hend hafter
  have hrest : Avoids isSeparator (blank ++ (term ++ after)) := by
    rw [hsegment, avoids_append, avoids_cons] at hsep
    exact hsep.right.right
  have hbeforeBody : Token.body before = [] := by
    rw [Token.body_word (avoids_isOperatorChar_of_isBlankText hbefore),
      Token.ofWord_of_blank hbefore]
  have hmark : Operator.ofChar? '!' = some .not := rfl
  rw [hsegment, Token.body_append_operator hmark, hbeforeBody,
    body_of_spells_filter hrest hne hplain htrim]
  rfl

theorem body_of_spells {segment : Text} {leaf : Query} (hsep : Avoids isSeparator segment)
    (h : Spells segment leaf) : Token.body segment = leaf.tokens := by
  cases h with
  | filter hne hplain htrim => exact body_of_spells_filter hsep hne hplain htrim
  | not hne hplain hblank hstart htrim =>
      exact body_of_spells_not hsep hne hplain hblank hstart htrim

theorem spells_of_word {word : Text} (hword : Avoids isOperatorChar word)
    (hblank : isBlankText word = false) : Spells word (.filter (lower (trimmed word))) := by
  refine .filter (trimmed_ne_nil hblank) ?_ rfl
  intro hmem
  exact (avoids_isOperatorChar_iff.mp hword).left (mem_of_mem_trimmed hmem)

theorem spells_of_negated_word {before word : Text} (hbefore : isBlankText before = true)
    (hword : Avoids isOperatorChar word) (hblank : isBlankText word = false) :
    Spells (before ++ '!' :: word) (.not (lower (trimmed word))) := by
  rcases exists_blank_append_trimmed word with ⟨blank, after, hlead, hafter, hsplit⟩
  have hne := trimmed_ne_nil hblank
  have hend : EndsOutside isBlank ('!' :: (blank ++ trimmed word)) := by
    rw [← List.cons_append, endsOutside_append hne]
    exact endsOutside_trimmed word
  have hstart : StartsOutside isBlank ('!' :: (blank ++ trimmed word)) :=
    startsOutside_cons.mpr (by decide)
  refine .not hne ?_ hlead (startsOutside_trimmed word) ?_
  · intro hmem
    exact (avoids_isOperatorChar_iff.mp hword).left (mem_of_mem_trimmed hmem)
  · have htrim := trimmed_blank_append hbefore (List.cons_ne_nil _ _) hstart hend hafter
    rw [List.cons_append, List.append_assoc, ← hsplit] at htrim
    exact htrim

end Query

/-!
# Segments in the parser
-/

namespace ParseState

theorem read_leaf {segment : Text} {leaf : Query} (hsep : Avoids isSeparator segment)
    (h : Query.Spells segment leaf) (part : ParsedPart) (rest : List Token) :
    (operand part).read (Token.body segment ++ rest) = (complete (part.push leaf)).read rest := by
  rw [Query.body_of_spells hsep h]
  cases h with
  | filter _ _ _ => exact read_filter part _ rest
  | not _ _ _ _ _ => exact read_not_filter part _ rest

def Refuses (answer : Except Token Query) : Prop :=
  ∃ token, answer = .error token

theorem refuses_of_stuck {state : ParseState} {token : Token} (hquery : state.query? = none)
    (h : state.step? token = none) (rest : List Token) : Refuses (state.read (token :: rest)) := by
  by_cases hend : token = .endOfInput
  · refine ⟨.endOfInput, ?_⟩
    rw [read, if_pos hend, conclude, hquery]
  · exact ⟨token, read_of_stuck hend h rest⟩

theorem refuses_not_of_complete (part : ParsedPart) (rest : List Token) :
    Refuses ((complete part).read (.not :: rest)) :=
  ⟨.not, read_of_stuck (by simp) rfl rest⟩

theorem operand_step?_eq_none {token : Token} (hnot : token ≠ .not)
    (hfilter : token.isFilter = false) (part : ParsedPart) :
    (operand part).step? token = none := by
  cases token <;> first | rfl | exact absurd rfl hnot | cases hfilter

theorem negated_step?_eq_none {token : Token} (hfilter : token.isFilter = false)
    (part : ParsedPart) : (negated part).step? token = none := by
  cases token <;> first | rfl | cases hfilter

theorem read_not (part : ParsedPart) (rest : List Token) :
    (operand part).read (.not :: rest) = (negated part).read rest :=
  read_of_step (by simp) rfl rest

theorem read_negated_filter (part : ParsedPart) (term : Text) (rest : List Token) :
    (negated part).read (.filter term :: rest) = (complete (part.push (.not term))).read rest :=
  read_of_step (by simp) rfl rest

theorem exists_first_negation {segment : Text} (hsep : Avoids isSeparator segment)
    (h : ¬Avoids isOperatorChar segment) :
    ∃ word rest, segment = word ++ '!' :: rest ∧ Avoids isOperatorChar word ∧
      Avoids isSeparator rest ∧
      Token.body segment = Token.ofWord word ++ .not :: Token.body rest := by
  rcases eq_append_of_not_avoids h with ⟨word, c, rest, rfl, hword, hc⟩
  rcases avoids_cons.mp (avoids_append.mp hsep).right with ⟨hcsep, hrest⟩
  have hmark : c = '!' := by
    rcases isOperatorChar_iff.mp hc with hc | hc
    · exact hc
    · rw [hcsep] at hc
      exact absurd hc Bool.false_ne_true
  subst hmark
  have hop : Operator.ofChar? '!' = some .not := rfl
  refine ⟨word, rest, rfl, hword, hrest, ?_⟩
  rw [Token.body_append_operator hop, Token.body_word hword]
  rfl

theorem refuses_after_negation {segment : Text} (hsep : Avoids isSeparator segment)
    (h : ¬(Avoids isOperatorChar segment ∧ isBlankText segment = false)) (part : ParsedPart)
    {next : Token} (hfilter : next.isFilter = false) (rest : List Token) :
    Refuses ((negated part).read (Token.body segment ++ next :: rest)) := by
  by_cases hplain : Avoids isOperatorChar segment
  · cases hblank : isBlankText segment with
    | false => exact absurd ⟨hplain, hblank⟩ h
    | true =>
        rw [Token.body_word hplain, Token.ofWord_of_blank hblank, List.nil_append]
        exact refuses_of_stuck rfl (negated_step?_eq_none hfilter part) rest
  · -- a second negation can follow neither the first one nor its term
    rcases exists_first_negation hsep hplain with ⟨word, tail, _, _, _, hbody⟩
    rw [hbody, List.append_assoc, List.cons_append]
    cases hblank : isBlankText word with
    | false =>
        rw [Token.ofWord_of_not_blank hblank, List.singleton_append, read_negated_filter]
        exact refuses_not_of_complete _ _
    | true =>
        rw [Token.ofWord_of_blank hblank, List.nil_append]
        exact refuses_of_stuck rfl rfl _

/-- A segment that spells no leaf is refused before the separator behind it is passed. -/
theorem refuses_segment {segment : Text} (hsep : Avoids isSeparator segment)
    (h : ∀ leaf, ¬Query.Spells segment leaf) (part : ParsedPart) {next : Token}
    (hnot : next ≠ .not) (hfilter : next.isFilter = false) (rest : List Token) :
    Refuses ((operand part).read (Token.body segment ++ next :: rest)) := by
  by_cases hplain : Avoids isOperatorChar segment
  · cases hblank : isBlankText segment with
    | false => exact absurd (Query.spells_of_word hplain hblank) (h _)
    | true =>
        rw [Token.body_word hplain, Token.ofWord_of_blank hblank, List.nil_append]
        exact refuses_of_stuck rfl (operand_step?_eq_none hnot hfilter part) rest
  · rcases exists_first_negation hsep hplain with ⟨word, tail, rfl, _, htail, hbody⟩
    rw [hbody, List.append_assoc, List.cons_append]
    cases hblank : isBlankText word with
    | false =>
        rw [Token.ofWord_of_not_blank hblank, List.singleton_append, read_filter]
        exact refuses_not_of_complete _ _
    | true =>
        rw [Token.ofWord_of_blank hblank, List.nil_append, read_not]
        refine refuses_after_negation htail ?_ part hfilter rest
        rintro ⟨htailPlain, htailBlank⟩
        exact h _ (Query.spells_of_negated_word hblank htailPlain htailBlank)

end ParseState

end Polyquery
