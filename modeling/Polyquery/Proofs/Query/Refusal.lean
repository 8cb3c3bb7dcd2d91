import Polyquery.Proofs.Query.Parsing

/-!
# Where parsing stops

The parser stops at the first token that no query has at its place.  Before that token the text can still
become a query, by one more letter.  Behind the token nothing can be said that would mend it, so the error
does not depend on what stands there.

Only an operator or the end of the text is refused in this way: a term is due wherever a word can begin, and
the words of a text are as long as they can be.
-/

namespace Polyquery

open Text Unicode

namespace ParseState

def awaitsTerm : ParseState → Bool
  | .operand _ => true
  | .negated _ => true
  | .complete _ => false

/-!
# One word
-/

theorem exists_step?_filter {state : ParseState} (h : state.awaitsTerm = true) (term : Text) :
    ∃ part query, state.step? (.filter term) = some (.complete part) ∧
      part.query? = some query := by
  have hpush : ∀ (part : ParsedPart) (leaf : Query), ∃ query, (part.push leaf).query? = some query := by
    intro part leaf
    rcases part with ⟨_ | left, _ | right⟩
    · exact ⟨_, rfl⟩
    · exact ⟨_, rfl⟩
    · exact ⟨_, rfl⟩
    · exact ⟨_, rfl⟩
  cases state with
  | operand part =>
      rcases hpush part (.filter term) with ⟨query, hquery⟩
      exact ⟨_, query, rfl, hquery⟩
  | negated part =>
      rcases hpush part (.not term) with ⟨query, hquery⟩
      exact ⟨_, query, rfl, hquery⟩
  | complete part => cases h

theorem awaitsTerm_of_step?_operator {state next : ParseState} {operator : Operator}
    (h : state.step? (.ofOperator operator) = some next) : next.awaitsTerm = true := by
  cases state <;> cases operator <;> cases h <;> rfl

theorem run_cons_of_step {state next : ParseState} {placed : PlacedToken} (last : Nat)
    (hne : placed.token ≠ .endOfInput) (h : state.step? placed.token = some next)
    (rest : List PlacedToken) :
    state.run last (placed :: rest) = next.run placed.position rest := by
  rw [run, if_neg hne, h]

theorem run_cons_of_stuck {state : ParseState} {placed : PlacedToken} (last : Nat)
    (hne : placed.token ≠ .endOfInput) (h : state.step? placed.token = none)
    (rest : List PlacedToken) :
    state.run last (placed :: rest) =
      .error { unexpected := placed.token, position := placed.position } := by
  rw [run, if_neg hne, h]

theorem run_end (state : ParseState) (last position : Nat) :
    state.run last [{ token := .endOfInput, position := position }] = state.finish position := by
  rw [run, if_pos rfl]

variable {state : ParseState} {word : Text}

theorem exists_run_placedWord (h : state.awaitsTerm = true) (hblank : isBlankText word = false)
    (last position : Nat) :
    ∃ part query place, part.query? = some query ∧ ∀ tokens,
      state.run last (Token.placedWord position word ++ tokens) =
        (complete part).run place tokens := by
  rcases exists_step?_filter h (lower (trimmed word)) with ⟨part, query, hstep, hquery⟩
  refine ⟨part, query, position + byteSize (word.takeWhile isBlank), hquery, ?_⟩
  intro tokens
  rw [Token.placedWord, Token.ofWord_of_not_blank hblank]
  exact run_cons_of_step last (by simp) hstep tokens

theorem run_placedWord_of_blank (hblank : isBlankText word = true) (last position : Nat)
    (tokens : List PlacedToken) :
    state.run last (Token.placedWord position word ++ tokens) = state.run last tokens := by
  rw [Token.placedWord, Token.ofWord_of_blank hblank]
  rfl

theorem exists_run_word (h : state.awaitsTerm = true) (hword : Avoids isOperatorChar word)
    (hblank : isBlankText word = false) (last position : Nat) :
    ∃ query, state.run last (Token.listFrom position word) = .ok query := by
  rcases exists_run_placedWord h hblank last position with ⟨part, query, place, hquery, hrun⟩
  refine ⟨query, ?_⟩
  rw [Token.listFrom_word hword, hrun, run_end, finish, ParseState.query?, hquery]

theorem exists_run_word_letter (h : state.awaitsTerm = true) (hword : Avoids isOperatorChar word)
    (last position : Nat) :
    ∃ query, state.run last (Token.listFrom position (word ++ ['x'])) = .ok query := by
  have hplain : Avoids isOperatorChar (word ++ ['x']) :=
    avoids_append.mpr ⟨hword, avoids_cons.mpr ⟨by decide, avoids_nil⟩⟩
  have hmem : 'x' ∈ word ++ ['x'] := List.mem_append_right word List.mem_cons_self
  exact exists_run_word h hplain (not_isBlankText_of_mem hmem (by decide)) last position

theorem exists_run_word_operator (h : state.awaitsTerm = true) (hword : Avoids isOperatorChar word)
    (last position : Nat) :
    ∃ (middle : ParseState) (place : Nat), ∀ c operator rest, Operator.ofChar? c = some operator →
      state.run last (Token.listFrom position (word ++ c :: rest)) =
        middle.run place
          ({ token := .ofOperator operator, position := position + byteSize word } ::
            Token.listFrom (position + byteSize word + c.utf8Size) rest) := by
  cases hblank : isBlankText word with
  | true =>
      refine ⟨state, last, ?_⟩
      intro c operator rest hc
      rw [Token.listFrom_word_operator hword hc, run_placedWord_of_blank hblank]
  | false =>
      rcases exists_run_placedWord h hblank last position with ⟨part, _, place, _, hrun⟩
      refine ⟨complete part, place, ?_⟩
      intro c operator rest hc
      rw [Token.listFrom_word_operator hword hc, hrun]

/-!
# The first impossible token
-/

/-- The answer to a text that begins at byte `position` names the first token that cannot stand in it. -/
inductive StopsAt (answer : Text → Except ParseError Query) (position : Nat) :
    Text → ParseError → Prop where
  | ending {text : Text} (hopen : ∃ query, answer (text ++ ['x']) = .ok query) :
      StopsAt answer position text
        { unexpected := .endOfInput, position := position + byteSize text }
  | operator {before rest : Text} {c : Char} {operator : Operator}
      (hc : Operator.ofChar? c = some operator)
      (hopen : ∃ query, answer (before ++ ['x']) = .ok query)
      (hstop : ∀ other, answer (before ++ c :: other) =
        .error { unexpected := .ofOperator operator, position := position + byteSize before }) :
      StopsAt answer position (before ++ c :: rest)
        { unexpected := .ofOperator operator, position := position + byteSize before }

theorem StopsAt.of_append {answer inner : Text → Except ParseError Query} {position place : Nat}
    {left text : Text} {error : ParseError} (h : StopsAt inner place text error)
    (hplace : position + byteSize left = place) (hanswer : ∀ rest, answer (left ++ rest) = inner rest) :
    StopsAt answer position (left ++ text) error := by
  subst hplace
  cases h with
  | ending hopen =>
      rw [Nat.add_assoc, ← byteSize_append]
      refine .ending ?_
      rw [List.append_assoc, hanswer]
      exact hopen
  | @operator before rest c operator hc hopen hstop =>
      rw [Nat.add_assoc, ← byteSize_append, ← List.append_assoc]
      rw [Nat.add_assoc, ← byteSize_append] at hstop
      refine .operator hc ?_ ?_
      · rw [List.append_assoc, hanswer]
        exact hopen
      · intro other
        rw [List.append_assoc, hanswer]
        exact hstop other

theorem stopsAt_of_run_error {text : Text} {last position : Nat} {error : ParseError}
    (hstate : state.awaitsTerm = true)
    (h : state.run last (Token.listFrom position text) = .error error) :
    StopsAt (fun other => state.run last (Token.listFrom position other)) position text error := by
  -- A word is followed by an operator, behind which a term is due again, or by the end of the text.
  induction text using induction_on_breaks isOperatorChar generalizing state last position with
  | whole word hword =>
      have hopen := exists_run_word_letter hstate hword last position
      cases hblank : isBlankText word with
      | false =>
          rcases exists_run_word hstate hword hblank last position with ⟨query, hquery⟩
          rw [hquery] at h
          cases h
      | true =>
          rw [Token.listFrom_word hword, run_placedWord_of_blank hblank, run_end, finish] at h
          cases hquery : state.query? with
          | none =>
              rw [hquery] at h
              cases h
              exact .ending hopen
          | some query =>
              rw [hquery] at h
              cases h
  | step word c rest hword hc ih =>
      rcases exists_operator_of_isOperatorChar hc with ⟨operator, hop⟩
      have hne := Token.ofOperator_ne_endOfInput operator
      rcases exists_run_word_operator hstate hword last position with ⟨middle, place, hrun⟩
      rw [hrun c operator rest hop] at h
      cases hstep : middle.step? (.ofOperator operator) with
      | none =>
          rw [run_cons_of_stuck place hne hstep] at h
          cases h
          refine .operator hop (exists_run_word_letter hstate hword last position) ?_
          intro other
          rw [hrun c operator other hop]
          exact run_cons_of_stuck place hne hstep _
      | some next =>
          rw [run_cons_of_step place hne hstep] at h
          have hinner := ih (awaitsTerm_of_step?_operator hstep) h
          rw [← List.singleton_append, ← List.append_assoc]
          refine hinner.of_append ?_ ?_
          · rw [byteSize_append, byteSize_cons, byteSize_nil, Nat.add_zero, Nat.add_assoc]
          · intro other
            rw [List.append_assoc, List.singleton_append, hrun c operator other hop]
            exact run_cons_of_step place hne hstep _

end ParseState

namespace Query

variable {text : Text} {error : ParseError}

theorem parse_of_not_blank (h : isBlankText text = false) :
    parse text = (ParseState.start.run 0 (Token.list text)).map some := by
  cases hlist : Token.list text with
  | nil =>
      rw [Token.list, Token.listFrom_eq_bodyFrom] at hlist
      exact absurd hlist (List.append_ne_nil_of_right_ne_nil _ (List.cons_ne_nil _ _))
  | cons first rest =>
      have hfirst : first.token ≠ .endOfInput := by
        intro hend
        have hnone : parse text = .ok none := by
          rw [parse, hlist, ofTokens, if_pos hend]
        rw [isBlankText_of_parse hnone] at h
        cases h
      rw [parse, hlist, ofTokens, if_neg hfirst]

theorem not_isBlankText_of_parse_error (h : parse text = .error error) :
    isBlankText text = false := by
  cases hblank : isBlankText text with
  | false => rfl
  | true =>
      rw [parse_of_blank hblank] at h
      cases h

theorem exists_parse_letter {before : Text}
    (h : ∃ query, ParseState.start.run 0 (Token.list (before ++ ['x'])) = .ok query) :
    ∃ query, parse (before ++ ['x']) = .ok (some query) := by
  rcases h with ⟨query, hquery⟩
  have hmem : 'x' ∈ before ++ ['x'] := List.mem_append_right before List.mem_cons_self
  refine ⟨query, ?_⟩
  rw [parse_of_not_blank (not_isBlankText_of_mem hmem (by decide)), hquery]
  rfl

/-- An error stands at a place of the text up to which the text can become a query.  It names the end of the
text, or the operator at that place, whatever follows that operator. -/
theorem parse_error_first (h : parse text = .error error) :
    ∃ before rest, text = before ++ rest ∧ byteSize before = error.position ∧
      (∀ term, error.unexpected ≠ .filter term) ∧
      (∃ query, parse (before ++ ['x']) = .ok (some query)) ∧
      (error.unexpected = .endOfInput → error.position = byteSize text) ∧
      (error.unexpected ≠ .endOfInput →
        ∃ c tail operator, rest = c :: tail ∧ Operator.ofChar? c = some operator ∧
          error.unexpected = .ofOperator operator ∧
          ∀ other, parse (before ++ c :: other) = .error error) := by
  have hrun : ParseState.start.run 0 (Token.list text) = .error error := by
    rw [parse_of_not_blank (not_isBlankText_of_parse_error h)] at h
    cases hanswer : ParseState.start.run 0 (Token.list text) with
    | error found =>
        rw [hanswer] at h
        cases h
        rfl
    | ok query =>
        rw [hanswer] at h
        cases h
  have hstops := ParseState.stopsAt_of_run_error rfl hrun
  cases hstops with
  | ending hopen =>
      rw [Nat.zero_add]
      exact ⟨text, [], (List.append_nil text).symm, rfl, by simp, exists_parse_letter hopen,
        fun _ => rfl, fun hne => absurd rfl hne⟩
  | @operator before rest c operator hc hopen hstop =>
      rw [Nat.zero_add] at hstop ⊢
      refine ⟨before, c :: rest, rfl, rfl, ?_, exists_parse_letter hopen, ?_, ?_⟩
      · intro term
        cases operator <;> simp [Token.ofOperator]
      · intro hend
        cases operator <;> cases hend
      · intro _
        refine ⟨c, rest, operator, rfl, hc, rfl, ?_⟩
        intro other
        have hmem : c ∈ before ++ c :: other := List.mem_append_right before List.mem_cons_self
        have hblank := isBlank_of_isOperatorChar (isOperatorChar_of_ofChar? hc)
        rw [parse_of_not_blank (not_isBlankText_of_mem hmem hblank), Token.list, hstop other]
        rfl

theorem parse_error_first_dotted :
    parse "İ & ! !b".toList = .error { unexpected := .not, position := 7 } ∧
      ∃ before rest, "İ & ! !b".toList = before ++ rest ∧ byteSize before = 7 ∧
        (∃ query, parse (before ++ ['x']) = .ok (some query)) ∧
        ∃ c tail, rest = c :: tail ∧
          ∀ other, parse (before ++ c :: other) = .error { unexpected := .not, position := 7 } := by
  have h : parse "İ & ! !b".toList = .error { unexpected := .not, position := 7 } := by
    decide +kernel
  rcases parse_error_first h with ⟨before, rest, htext, hsize, _, hopen, _, hoperator⟩
  rcases hoperator (by simp) with ⟨c, tail, _, hrest, _, _, hstop⟩
  exact ⟨h, before, rest, htext, hsize, hopen, c, tail, hrest, hstop⟩

end Query
end Polyquery
