import Mathlib.Data.List.Chain
import Polyquery.Proofs.Query.Tokens
import Polyquery.Query.Parser

/-!
# The parser without places and without words

Places in a text are carried along for error reports and decide nothing.  The same is true of the words of
terms: the parser looks at the kinds of tokens only, and builds a tree whose form depends on nothing else.
Two texts with the same kinds of tokens are therefore accepted together or refused at the same token.
-/

namespace Polyquery

def Token.kind : Token → Token
  | .filter _ => .filter []
  | token => token

def Query.shape : Query → Query
  | .filter _ => .filter []
  | .not _ => .not []
  | .and left right => .and left.shape right.shape
  | .or left right => .or left.shape right.shape

/-- The tokens that spell a tree, read as a query without parentheses. -/
def Query.tokens : Query → List Token
  | .filter term => [.filter term]
  | .not term => [.not, .filter term]
  | .and left right => left.tokens ++ .and :: right.tokens
  | .or left right => left.tokens ++ .or :: right.tokens

namespace ParsedPart

def shape (part : ParsedPart) : ParsedPart :=
  { alternatives := part.alternatives.map Query.shape
    conjunction := part.conjunction.map Query.shape }

theorem shape_push (part : ParsedPart) (leaf : Query) :
    (part.push leaf).shape = part.shape.push leaf.shape := by
  rcases part with ⟨alternatives, conjunction⟩
  cases conjunction with
  | none => rfl
  | some left => rfl

theorem query?_shape (part : ParsedPart) : part.shape.query? = part.query?.map Query.shape := by
  rcases part with ⟨alternatives, conjunction⟩
  cases alternatives with
  | none => rfl
  | some left =>
      cases conjunction with
      | none => rfl
      | some right => rfl

theorem shape_close (part : ParsedPart) : part.close.shape = part.shape.close := by
  rw [close, close, query?_shape]
  rfl

end ParsedPart

namespace ParseState

def shape : ParseState → ParseState
  | .operand part => .operand part.shape
  | .negated part => .negated part.shape
  | .complete part => .complete part.shape

/-!
# Answers without places
-/

def conclude (state : ParseState) : Except Token Query :=
  match state.query? with
  | some query => .ok query
  | none => .error .endOfInput

def read (state : ParseState) : List Token → Except Token Query
  | [] => state.conclude
  | token :: rest =>
    if token = .endOfInput then state.conclude
    else
      match state.step? token with
      | some next => next.read rest
      | none => .error token

theorem mapError_finish (state : ParseState) (position : Nat) :
    (state.finish position).mapError ParseError.unexpected = state.conclude := by
  rw [finish, conclude]
  cases state.query? with
  | none => rfl
  | some query => rfl

/-- Places decide nothing. -/
theorem mapError_run (state : ParseState) (last : Nat) (tokens : List PlacedToken) :
    (state.run last tokens).mapError ParseError.unexpected =
      state.read (tokens.map PlacedToken.token) := by
  induction tokens generalizing state last with
  | nil => exact mapError_finish state last
  | cons placed rest ih =>
      rw [run, List.map_cons, read]
      by_cases hend : placed.token = .endOfInput
      · rw [if_pos hend, if_pos hend]
        exact mapError_finish state placed.position
      · rw [if_neg hend, if_neg hend]
        cases hstep : state.step? placed.token with
        | none => rfl
        | some next => exact ih next placed.position

theorem read_of_step {state next : ParseState} {token : Token} (hne : token ≠ .endOfInput)
    (h : state.step? token = some next) (rest : List Token) :
    state.read (token :: rest) = next.read rest := by
  rw [read, if_neg hne, h]

theorem read_of_stuck {state : ParseState} {token : Token} (hne : token ≠ .endOfInput)
    (h : state.step? token = none) (rest : List Token) :
    state.read (token :: rest) = .error token := by
  rw [read, if_neg hne, h]

theorem read_filter (part : ParsedPart) (term : Text) (rest : List Token) :
    (operand part).read (.filter term :: rest) =
      (complete (part.push (.filter term))).read rest :=
  read_of_step (by simp) rfl rest

theorem read_not_filter (part : ParsedPart) (term : Text) (rest : List Token) :
    (operand part).read (.not :: .filter term :: rest) =
      (complete (part.push (.not term))).read rest := by
  have hnot : (operand part).step? .not = some (.negated part) := rfl
  rw [read_of_step (by simp) hnot]
  exact read_of_step (by simp) rfl rest

/-!
# Answers without words
-/

theorem step?_shape (state : ParseState) (token : Token) :
    state.shape.step? token.kind = (state.step? token).map shape := by
  cases state with
  | operand part =>
      cases token with
      | filter term =>
          simp only [shape, Token.kind, step?, Option.map_some, ParsedPart.shape_push, Query.shape]
      | not => rfl
      | and => rfl
      | or => rfl
      | endOfInput => rfl
  | negated part =>
      cases token with
      | filter term =>
          simp only [shape, Token.kind, step?, Option.map_some, ParsedPart.shape_push, Query.shape]
      | not => rfl
      | and => rfl
      | or => rfl
      | endOfInput => rfl
  | complete part =>
      cases token with
      | filter term => rfl
      | not => rfl
      | and => rfl
      | or =>
          simp only [shape, Token.kind, step?, Option.map_some, ParsedPart.shape_close]
      | endOfInput => rfl

theorem query?_shape (state : ParseState) : state.shape.query? = state.query?.map Query.shape := by
  cases state with
  | operand part => rfl
  | negated part => rfl
  | complete part => exact part.query?_shape

theorem kind_eq_endOfInput {token : Token} : token.kind = .endOfInput ↔ token = .endOfInput := by
  cases token <;> simp [Token.kind]

def answerShape (answer : Except Token Query) : Except Token Query :=
  (answer.map Query.shape).mapError Token.kind

theorem conclude_shape (state : ParseState) :
    state.shape.conclude = answerShape state.conclude := by
  rw [conclude, conclude, query?_shape]
  cases state.query? with
  | none => rfl
  | some query => rfl

/-- Words decide nothing. -/
theorem read_shape (state : ParseState) (tokens : List Token) :
    state.shape.read (tokens.map Token.kind) = answerShape (state.read tokens) := by
  induction tokens generalizing state with
  | nil => exact conclude_shape state
  | cons token rest ih =>
      rw [List.map_cons, read, read]
      by_cases hend : token = .endOfInput
      · rw [if_pos hend, if_pos (kind_eq_endOfInput.mpr hend)]
        exact conclude_shape state
      · rw [if_neg hend, if_neg (mt kind_eq_endOfInput.mp hend), step?_shape]
        cases hstep : state.step? token with
        | none => rfl
        | some next => exact ih next

/-!
# The token that is refused

Only a complete query cannot be followed by a term, and it was completed by one.
-/

theorem isFilter_of_step?_complete {state : ParseState} {token : Token} {part : ParsedPart}
    (h : state.step? token = some (.complete part)) : token.isFilter = true := by
  cases state <;> cases token <;> first | rfl | cases h

theorem isFilter_of_step?_none {state : ParseState} {token : Token} (h : state.step? token = none)
    (hstate : ∀ part, state ≠ .complete part) : token.isFilter = false := by
  cases state with
  | operand part => cases token <;> first | rfl | cases h
  | negated part => cases token <;> first | rfl | cases h
  | complete part => exact absurd rfl (hstate part)

theorem eq_endOfInput_of_conclude_error {state : ParseState} {token : Token}
    (h : state.conclude = .error token) : token = .endOfInput := by
  rw [conclude] at h
  cases hquery : state.query? with
  | none =>
      rw [hquery] at h
      cases h
      rfl
  | some query =>
      rw [hquery] at h
      cases h

theorem isFilter_of_read_error {state : ParseState} {tokens : List Token} {refused : Token}
    (h : state.read tokens = .error refused) (hchain : tokens.IsChain Token.Apart)
    (hhead : ∀ part, state = .complete part → ∀ token ∈ tokens.head?, token.isFilter = false) :
    refused.isFilter = false := by
  induction tokens generalizing state with
  | nil =>
      rw [eq_endOfInput_of_conclude_error h]
      rfl
  | cons token rest ih =>
      rw [List.isChain_cons] at hchain
      rcases hchain with ⟨hnext, hrest⟩
      by_cases hend : token = .endOfInput
      · rw [read, if_pos hend] at h
        rw [eq_endOfInput_of_conclude_error h]
        rfl
      · cases hstep : state.step? token with
        | none =>
            rw [read_of_stuck hend hstep] at h
            cases h
            by_cases hcomplete : ∃ part, state = .complete part
            · rcases hcomplete with ⟨part, hpart⟩
              exact hhead part hpart refused rfl
            · exact isFilter_of_step?_none hstep fun part hpart => hcomplete ⟨part, hpart⟩
        | some next =>
            rw [read_of_step hend hstep] at h
            refine ih h hrest ?_
            intro part hpart other hother
            rw [hpart] at hstep
            rcases hnext other hother with htoken | hfree
            · rw [isFilter_of_step?_complete hstep] at htoken
              exact absurd htoken.symm Bool.false_ne_true
            · exact hfree

end ParseState
end Polyquery
