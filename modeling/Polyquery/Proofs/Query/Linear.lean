import Polyquery.Proofs.Query.Machine
import Polyquery.Proofs.Query.Nesting

/-!
# Token streams that spell a tree

A tree is spelled by its leaves with an operator between each two of them.  The grouping does not show, but
of the trees with one spelling a single one is left-nested, and this is the one that the parser builds.

While it reads, the parser holds a part of a tree, and this part spells what has been read.  So the parser
goes on exactly as long as some left-nested tree begins with the tokens before it, and it stops at the first
token with which none does.
-/

namespace Polyquery

/-!
# Streams up to their end
-/

namespace PlacedToken

def leading (stream : List PlacedToken) : List PlacedToken :=
  stream.takeWhile fun placed => decide (placed.token ≠ .endOfInput)

def endMark? (stream : List PlacedToken) : Option Nat :=
  (stream.find? fun placed => decide (placed.token = .endOfInput)).map position

/-- Where a stream ends, if the token before it stands at `last`: at its end marker, or where its last token
stands. -/
def endPosition (last : Nat) (stream : List PlacedToken) : Nat :=
  (endMark? stream).getD (((leading stream).getLast?.map position).getD last)

variable {placed : PlacedToken} {rest : List PlacedToken}

theorem leading_cons_of_end (h : placed.token = .endOfInput) : leading (placed :: rest) = [] := by
  rw [leading, List.takeWhile_cons, if_neg (by simp [h])]

theorem leading_cons (h : placed.token ≠ .endOfInput) :
    leading (placed :: rest) = placed :: leading rest := by
  rw [leading, List.takeWhile_cons, if_pos (by simp [h])]
  rfl

theorem endPosition_cons_of_end (h : placed.token = .endOfInput) (last : Nat) :
    endPosition last (placed :: rest) = placed.position := by
  rw [endPosition, endMark?, List.find?_cons_of_pos (by simp [h])]
  rfl

theorem endPosition_cons (h : placed.token ≠ .endOfInput) (last : Nat) :
    endPosition last (placed :: rest) = endPosition placed.position rest := by
  have hmark : endMark? (placed :: rest) = endMark? rest := by
    rw [endMark?, endMark?, List.find?_cons_of_neg (by simp [h])]
  rw [endPosition, endPosition, hmark, leading_cons h, List.getLast?_cons]
  cases (leading rest).getLast? with
  | none => rfl
  | some other => rfl

end PlacedToken

open PlacedToken

namespace ParseState

/-- The state behind some more tokens, if each of them can stand at its place. -/
def after? (state : ParseState) (tokens : List Token) : Option ParseState :=
  tokens.foldlM step? state

variable {state next : ParseState}

theorem after?_cons (state : ParseState) (token : Token) (rest : List Token) :
    state.after? (token :: rest) = (state.step? token).bind fun next => next.after? rest :=
  List.foldlM_cons

theorem after?_append (state : ParseState) (left right : List Token) :
    state.after? (left ++ right) = (state.after? left).bind fun next => next.after? right :=
  List.foldlM_append

theorem run_of_after? {stream : List PlacedToken} (last : Nat)
    (h : state.after? ((leading stream).map PlacedToken.token) = some next) :
    state.run last stream = next.finish (endPosition last stream) := by
  induction stream generalizing state last with
  | nil =>
      cases h
      rfl
  | cons placed rest ih =>
      rw [run]
      by_cases hend : placed.token = .endOfInput
      · rw [leading_cons_of_end hend] at h
        cases h
        rw [if_pos hend, endPosition_cons_of_end hend]
      · rw [leading_cons hend, List.map_cons, after?_cons, Option.bind_eq_some_iff] at h
        rcases h with ⟨middle, hstep, hrest⟩
        rw [if_neg hend, hstep, endPosition_cons hend]
        exact ih placed.position hrest

/-- The first token that cannot stand at its place is the error, wherever the stream ends. -/
theorem run_of_stuck {stream before after : List PlacedToken} {placed : PlacedToken} (last : Nat)
    (hsplit : leading stream = before ++ placed :: after)
    (hbefore : state.after? (before.map PlacedToken.token) = some next) (h : next.step? placed.token = none) :
    state.run last stream =
      .error { unexpected := placed.token, position := placed.position } := by
  induction stream generalizing state last before with
  | nil => exact absurd hsplit.symm (List.append_ne_nil_of_right_ne_nil before (List.cons_ne_nil _ _))
  | cons first rest ih =>
      rw [run]
      by_cases hend : first.token = .endOfInput
      · rw [leading_cons_of_end hend] at hsplit
        exact absurd hsplit.symm
          (List.append_ne_nil_of_right_ne_nil before (List.cons_ne_nil _ _))
      · rw [leading_cons hend] at hsplit
        rw [if_neg hend]
        cases before with
        | nil =>
            cases hsplit
            cases hbefore
            rw [h]
        | cons head before =>
            rcases List.cons.inj hsplit with ⟨rfl, hrest⟩
            rw [List.map_cons, after?_cons, Option.bind_eq_some_iff] at hbefore
            rcases hbefore with ⟨middle, hstep, hbefore⟩
            rw [hstep]
            exact ih first.position hrest hbefore

end ParseState

/-!
# What a state spells
-/

namespace ParsedPart

/-- The closed alternatives are left-nested, and the open conjunction is so too and has no disjunction. -/
structure Grouped (part : ParsedPart) : Prop where
  alternatives : ∀ query ∈ part.alternatives, query.leftNested = true
  conjunction : ∀ query ∈ part.conjunction, query.orFree = true ∧ query.leftNested = true

def closedTokens (part : ParsedPart) : List Token :=
  part.alternatives.elim [] fun query => query.tokens ++ [.or]

variable {part : ParsedPart} {leaf : Query}

theorem Grouped.push (h : part.Grouped) (hleaf : leaf.isLeaf = true) :
    (part.push leaf).Grouped := by
  rcases part with ⟨alternatives, conjunction⟩
  refine ⟨?_, ?_⟩
  · cases conjunction with
    | none => exact h.alternatives
    | some left => exact h.alternatives
  · cases conjunction with
    | none =>
        intro query hquery
        cases hquery
        exact ⟨Query.orFree_of_isLeaf hleaf, Query.leftNested_of_isLeaf hleaf⟩
    | some left =>
        intro query hquery
        cases hquery
        rcases h.conjunction left rfl with ⟨horFree, hnested⟩
        rw [Query.orFree, Query.leftNested, horFree, hnested, hleaf, Query.orFree_of_isLeaf hleaf]
        exact ⟨rfl, rfl⟩

theorem Grouped.exists_query (h : part.Grouped) {right : Query}
    (hright : part.conjunction = some right) :
    ∃ query, part.query? = some query ∧ query.leftNested = true ∧
      query.tokens = part.closedTokens ++ right.tokens := by
  rcases part with ⟨alternatives, conjunction⟩
  cases hright
  rcases h.conjunction right rfl with ⟨horFree, hnested⟩
  cases alternatives with
  | none => exact ⟨right, rfl, hnested, rfl⟩
  | some left =>
      refine ⟨.or left right, rfl, ?_, ?_⟩
      · rw [Query.leftNested, h.alternatives left rfl, horFree, hnested, Bool.and_self, Bool.and_self]
      · rw [Query.tokens, closedTokens, Option.elim_some, List.append_assoc, List.singleton_append]

theorem Grouped.close (h : part.Grouped) : part.close.Grouped := by
  refine ⟨?_, ?_⟩
  · intro query hquery
    rcases part with ⟨_ | left, _ | right⟩
    · cases hquery
    · cases hquery
      exact (h.conjunction query rfl).right
    · cases hquery
      exact h.alternatives query rfl
    · rcases h.exists_query rfl with ⟨tree, htree, hnested, _⟩
      cases htree.symm.trans hquery
      exact hnested
  · intro query hquery
    cases hquery

end ParsedPart

namespace ParseState

/-- Where an operand is due, an operator stands behind the open conjunction. -/
def awaited (part : ParsedPart) : List Token :=
  part.closedTokens ++ part.conjunction.elim [] fun query => query.tokens ++ [.and]

/-- The state holds left-nested trees, and together with the operators that are not in them yet they spell the
tokens. -/
inductive Spells : ParseState → List Token → Prop where
  | operand {part : ParsedPart} (h : part.Grouped) : Spells (.operand part) (awaited part)
  | negated {part : ParsedPart} (h : part.Grouped) : Spells (.negated part) (awaited part ++ [.not])
  | complete {part : ParsedPart} {right : Query} (h : part.Grouped)
      (hright : part.conjunction = some right) :
      Spells (.complete part) (part.closedTokens ++ right.tokens)

theorem spells_start : start.Spells [] := by
  refine .operand ⟨?_, ?_⟩
  · intro query hquery
    cases hquery
  · intro query hquery
    cases hquery

theorem spells_push {part : ParsedPart} {leaf : Query} (h : part.Grouped)
    (hleaf : leaf.isLeaf = true) :
    (complete (part.push leaf)).Spells (awaited part ++ leaf.tokens) := by
  have hpush := h.push hleaf
  rcases part with ⟨alternatives, conjunction⟩
  cases conjunction with
  | none =>
      rw [awaited, Option.elim_none, List.append_nil]
      exact .complete hpush rfl
  | some left =>
      rw [awaited, Option.elim_some, List.append_assoc, List.append_assoc, List.singleton_append]
      exact .complete hpush rfl

theorem awaited_of_conjunction {part : ParsedPart} {right : Query}
    (hright : part.conjunction = some right) :
    awaited part = part.closedTokens ++ right.tokens ++ [.and] := by
  rw [awaited, hright, Option.elim_some, List.append_assoc]

theorem awaited_close {part : ParsedPart} {right : Query} (h : part.Grouped)
    (hright : part.conjunction = some right) :
    awaited part.close = part.closedTokens ++ right.tokens ++ [.or] := by
  rcases h.exists_query hright with ⟨query, hquery, _, htokens⟩
  rw [awaited, ParsedPart.close, hquery, ParsedPart.closedTokens, Option.elim_some, Option.elim_none,
    List.append_nil, htokens]

theorem Spells.step {state next : ParseState} {tokens : List Token} {token : Token}
    (h : state.Spells tokens) (hstep : state.step? token = some next) :
    next.Spells (tokens ++ [token]) := by
  cases h with
  | operand h =>
      cases token with
      | filter term =>
          cases hstep
          exact spells_push h rfl
      | not =>
          cases hstep
          exact .negated h
      | and => cases hstep
      | or => cases hstep
      | endOfInput => cases hstep
  | negated h =>
      cases token with
      | filter term =>
          cases hstep
          rw [List.append_assoc]
          exact spells_push h rfl
      | not => cases hstep
      | and => cases hstep
      | or => cases hstep
      | endOfInput => cases hstep
  | @complete part right h hright =>
      cases token with
      | filter term => cases hstep
      | not => cases hstep
      | and =>
          cases hstep
          rw [← awaited_of_conjunction hright]
          exact .operand h
      | or =>
          cases hstep
          rw [← awaited_close h hright]
          exact .operand h.close
      | endOfInput => cases hstep

theorem Spells.after {state next : ParseState} {tokens more : List Token}
    (h : state.Spells tokens) (hafter : state.after? more = some next) :
    next.Spells (tokens ++ more) := by
  induction more generalizing state tokens with
  | nil =>
      cases hafter
      rw [List.append_nil]
      exact h
  | cons token rest ih =>
      rw [after?_cons, Option.bind_eq_some_iff] at hafter
      rcases hafter with ⟨middle, hstep, hrest⟩
      have hrest := ih (h.step hstep) hrest
      rw [List.append_assoc, List.singleton_append] at hrest
      exact hrest

/-!
# From a tree to its state
-/

theorem after?_of_orFree {query : Query} (horFree : query.orFree = true)
    (hnested : query.leftNested = true) (alternatives : Option Query) :
    (operand { alternatives := alternatives, conjunction := none }).after? query.tokens =
      some (complete { alternatives := alternatives, conjunction := some query }) := by
  induction query with
  | filter term => rfl
  | not term => rfl
  | and left right ihleft _ =>
      simp only [Query.leftNested, Bool.and_eq_true] at hnested
      rw [Query.tokens, after?_append, ihleft hnested.left.left hnested.left.right, Option.bind_some]
      rcases Query.exists_leaf_of_isLeaf hnested.right with ⟨⟨negated, term⟩, rfl⟩
      cases negated with
      | false => rfl
      | true => rfl
  | or left right _ _ => cases horFree

theorem exists_after?_tokens {query : Query} (h : query.leftNested = true) :
    ∃ part, start.after? query.tokens = some (complete part) ∧ part.query? = some query := by
  induction query with
  | filter term => exact ⟨_, rfl, rfl⟩
  | not term => exact ⟨_, rfl, rfl⟩
  | and left right _ _ =>
      have horFree : (Query.and left right).orFree = true := Query.flat_of_leftNested h
      exact ⟨_, after?_of_orFree horFree h none, rfl⟩
  | or left right ihleft _ =>
      simp only [Query.leftNested, Bool.and_eq_true] at h
      rcases ihleft h.left.left with ⟨part, hafter, hquery⟩
      have hclose : part.close = { alternatives := some left, conjunction := none } := by
        rw [ParsedPart.close, hquery]
      have hstep : (complete part).step? .or = some (operand part.close) := rfl
      refine ⟨{ alternatives := some left, conjunction := some right }, ?_, rfl⟩
      rw [Query.tokens, after?_append, hafter, Option.bind_some, after?_cons, hstep, Option.bind_some,
        hclose, after?_of_orFree h.left.right h.right]

end ParseState

/-!
# Beginnings of trees
-/

namespace Query

open ParseState

/-- The tokens of some left-nested tree begin with these. -/
def Begins (tokens : List Token) : Prop :=
  ∃ query : Query, query.leftNested = true ∧ tokens <+: query.tokens

theorem Begins.of_shorter {shorter tokens : List Token} (h : Begins tokens)
    (hshorter : shorter <+: tokens) : Begins shorter := by
  rcases h with ⟨query, hnested, hquery⟩
  exact ⟨query, hnested, hshorter.trans hquery⟩

theorem exists_query_of_after? {tokens : List Token} {part : ParsedPart}
    (h : start.after? tokens = some (.complete part)) :
    ∃ query, part.query? = some query ∧ query.leftNested = true ∧ query.tokens = tokens := by
  have hspells := spells_start.after h
  rw [List.nil_append] at hspells
  cases hspells with
  | complete hgrouped hright => exact hgrouped.exists_query hright

/-- The parser goes on while there is a tree that begins with the tokens. -/
theorem begins_iff {tokens : List Token} :
    Begins tokens ↔ ∃ state, start.after? tokens = some state := by
  constructor
  · rintro ⟨query, hnested, rest, htokens⟩
    rcases exists_after?_tokens hnested with ⟨part, hafter, _⟩
    rw [← htokens, after?_append, Option.bind_eq_some_iff] at hafter
    rcases hafter with ⟨state, hstate, _⟩
    exact ⟨state, hstate⟩
  · rintro ⟨state, hstate⟩
    -- a state that is not complete becomes so with one more term
    have hmore : ∃ more part, start.after? (tokens ++ more) = some (.complete part) := by
      cases state with
      | operand part =>
          refine ⟨[.filter []], part.push (.filter []), ?_⟩
          rw [after?_append, hstate]
          rfl
      | negated part =>
          refine ⟨[.filter []], part.push (.not []), ?_⟩
          rw [after?_append, hstate]
          rfl
      | complete part =>
          refine ⟨[], part, ?_⟩
          rw [List.append_nil]
          exact hstate
    rcases hmore with ⟨more, part, hpart⟩
    rcases exists_query_of_after? hpart with ⟨query, _, hnested, htokens⟩
    exact ⟨query, hnested, more, htokens.symm⟩

/-- No two left-nested trees have the same tokens. -/
theorem eq_of_tokens_eq {query other : Query} (hquery : query.leftNested = true)
    (hother : other.leftNested = true) (h : query.tokens = other.tokens) : query = other := by
  rcases exists_after?_tokens hquery with ⟨part, hafter, htree⟩
  rcases exists_after?_tokens hother with ⟨second, hsecond, hsame⟩
  rw [h, hsecond] at hafter
  cases hafter
  exact Option.some.inj (htree.symm.trans hsame)

/-!
# Streams in the parser
-/

variable {stream : List PlacedToken}

theorem ofTokens_of_leading_eq_nil (h : leading stream = []) : ofTokens stream = .ok none := by
  cases stream with
  | nil => rfl
  | cons placed rest =>
      by_cases hend : placed.token = .endOfInput
      · rw [ofTokens, if_pos hend]
      · rw [leading_cons hend] at h
        cases h

theorem ofTokens_of_leading_ne_nil (h : leading stream ≠ []) :
    ofTokens stream = (start.run 0 stream).map some := by
  cases stream with
  | nil => exact absurd rfl h
  | cons placed rest =>
      by_cases hend : placed.token = .endOfInput
      · exact absurd (leading_cons_of_end hend) h
      · rw [ofTokens, if_neg hend]

theorem begins_or_exists_stuck (tokens : List PlacedToken) :
    Begins (tokens.map PlacedToken.token) ∨
      ∃ before placed after, tokens = before ++ placed :: after ∧
        Begins (before.map PlacedToken.token) ∧
        ¬Begins ((before ++ [placed]).map PlacedToken.token) := by
  induction tokens using List.reverseRecOn with
  | nil => exact Or.inl (begins_iff.mpr ⟨start, rfl⟩)
  | append_singleton tokens placed ih =>
      rcases ih with hbegins | ⟨before, stuck, after, rfl, hbefore, hstuck⟩
      · by_cases hall : Begins ((tokens ++ [placed]).map PlacedToken.token)
        · exact Or.inl hall
        · exact Or.inr ⟨tokens, placed, [], rfl, hbegins, hall⟩
      · refine Or.inr ⟨before, stuck, after ++ [placed], ?_, hbefore, hstuck⟩
        rw [List.append_assoc, List.cons_append]

theorem ofTokens_of_stuck {before after : List PlacedToken} {placed : PlacedToken}
    (hsplit : leading stream = before ++ placed :: after)
    (hbefore : Begins (before.map PlacedToken.token))
    (hstuck : ¬Begins ((before ++ [placed]).map PlacedToken.token)) :
    ofTokens stream = .error { unexpected := placed.token, position := placed.position } := by
  have hne : leading stream ≠ [] := by
    rw [hsplit]
    exact List.append_ne_nil_of_right_ne_nil before (List.cons_ne_nil _ _)
  rcases begins_iff.mp hbefore with ⟨state, hstate⟩
  have hstep : state.step? placed.token = none := by
    cases hnext : state.step? placed.token with
    | none => rfl
    | some next =>
        refine absurd (begins_iff.mpr ⟨next, ?_⟩) hstuck
        rw [List.map_append, after?_append, hstate, Option.bind_some, List.map_singleton, after?_cons,
          hnext]
        rfl
  rw [ofTokens_of_leading_ne_nil hne, run_of_stuck 0 hsplit hstate hstep]
  rfl

theorem ofTokens_of_tokens {query : Query} (hnested : query.leftNested = true)
    (h : query.tokens = (leading stream).map PlacedToken.token) :
    ofTokens stream = .ok (some query) := by
  rcases exists_after?_tokens hnested with ⟨part, hafter, hquery⟩
  have hne : leading stream ≠ [] := by
    intro hnil
    rw [h, hnil] at hafter
    cases hafter
  rw [h] at hafter
  rw [ofTokens_of_leading_ne_nil hne, run_of_after? 0 hafter, finish, ParseState.query?, hquery]
  rfl

theorem ofTokens_of_begins {last : PlacedToken} (hlast : (leading stream).getLast? = some last)
    (hbegins : Begins ((leading stream).map PlacedToken.token))
    (hopen : ∀ query : Query, query.leftNested = true →
      query.tokens ≠ (leading stream).map PlacedToken.token) :
    ofTokens stream =
      .error { unexpected := .endOfInput, position := (endMark? stream).getD last.position } := by
  have hne : leading stream ≠ [] := by
    intro hnil
    rw [hnil] at hlast
    cases hlast
  rcases begins_iff.mp hbegins with ⟨state, hstate⟩
  have hquery : state.query? = none := by
    cases state with
    | operand part => rfl
    | negated part => rfl
    | complete part =>
        rcases exists_query_of_after? hstate with ⟨query, _, hnested, htokens⟩
        exact absurd htokens (hopen query hnested)
  rw [ofTokens_of_leading_ne_nil hne, run_of_after? 0 hstate, finish, hquery, endPosition, hlast]
  rfl

theorem ofTokens_cases (stream : List PlacedToken) (hne : leading stream ≠ []) :
    (∃ query : Query, query.leftNested = true ∧
      query.tokens = (leading stream).map PlacedToken.token) ∨
    (∃ before placed after, leading stream = before ++ placed :: after ∧
      Begins (before.map PlacedToken.token) ∧
      ¬Begins ((before ++ [placed]).map PlacedToken.token)) ∨
    ∃ last, (leading stream).getLast? = some last ∧
      Begins ((leading stream).map PlacedToken.token) ∧
      ∀ query : Query, query.leftNested = true →
        query.tokens ≠ (leading stream).map PlacedToken.token := by
  rcases begins_or_exists_stuck (leading stream) with hbegins | hstuck
  · by_cases hwhole : ∃ query : Query, query.leftNested = true ∧
        query.tokens = (leading stream).map PlacedToken.token
    · exact Or.inl hwhole
    · refine Or.inr (Or.inr ⟨_, List.getLast?_eq_some_getLast hne, hbegins, ?_⟩)
      intro query hnested htokens
      exact hwhole ⟨query, hnested, htokens⟩
  · exact Or.inr (Or.inl hstuck)

theorem ofTokens_congr {other : List PlacedToken} (hleading : leading other = leading stream)
    (hmark : endMark? other = endMark? stream) : ofTokens other = ofTokens stream := by
  by_cases hnil : leading stream = []
  · rw [ofTokens_of_leading_eq_nil hnil, ofTokens_of_leading_eq_nil (hleading.trans hnil)]
  · rcases ofTokens_cases stream hnil with ⟨query, hnested, htokens⟩ |
      ⟨before, placed, after, hsplit, hbefore, hstuck⟩ | ⟨last, hlast, hbegins, hopen⟩
    · rw [ofTokens_of_tokens hnested htokens, ofTokens_of_tokens hnested (hleading ▸ htokens)]
    · rw [ofTokens_of_stuck hsplit hbefore hstuck,
        ofTokens_of_stuck (hleading.trans hsplit) hbefore hstuck]
    · rw [ofTokens_of_begins hlast hbegins hopen, ← hmark]
      rw [← hleading] at hlast hbegins hopen
      exact ofTokens_of_begins hlast hbegins hopen

theorem ofTokens_eq_none_iff : ofTokens stream = .ok none ↔ leading stream = [] := by
  constructor
  · intro h
    by_contra hne
    rw [ofTokens_of_leading_ne_nil hne] at h
    cases hrun : start.run 0 stream with
    | error error =>
        rw [hrun] at h
        cases h
    | ok query =>
        rw [hrun] at h
        cases h
  · exact ofTokens_of_leading_eq_nil

theorem ofTokens_eq_some_iff {query : Query} :
    ofTokens stream = .ok (some query) ↔
      query.leftNested = true ∧ query.tokens = (leading stream).map PlacedToken.token := by
  constructor
  · intro h
    have hne : leading stream ≠ [] := by
      intro hnil
      rw [ofTokens_of_leading_eq_nil hnil] at h
      cases h
    rcases ofTokens_cases stream hne with ⟨tree, hnested, htokens⟩ |
      ⟨before, placed, after, hsplit, hbefore, hstuck⟩ | ⟨last, hlast, hbegins, hopen⟩
    · rw [ofTokens_of_tokens hnested htokens] at h
      cases h
      exact ⟨hnested, htokens⟩
    · rw [ofTokens_of_stuck hsplit hbefore hstuck] at h
      cases h
    · rw [ofTokens_of_begins hlast hbegins hopen] at h
      cases h
  · rintro ⟨hnested, htokens⟩
    exact ofTokens_of_tokens hnested htokens

/-- Parsing is the inverse of spelling, on every token stream.  It looks at the tokens before the first end
marker and at the place of this marker.  Without tokens there is nothing to parse.  A left-nested tree comes
back from its tokens, and no other stream gives a tree.  Any other stream is refused: at its first token with
which no such tree goes on, or at its end if there is none. -/
theorem ofTokens_inverts_tokens (stream : List PlacedToken) :
    (∀ other, leading other = leading stream → endMark? other = endMark? stream →
      ofTokens other = ofTokens stream) ∧
    (ofTokens stream = .ok none ↔ leading stream = []) ∧
    (∀ query, ofTokens stream = .ok (some query) ↔
      query.tokens = (leading stream).map PlacedToken.token ∧ query.flat = true ∧
        query.leftNested = true) ∧
    (∀ query other : Query, query.leftNested = true → other.leftNested = true →
      query.tokens = other.tokens → query = other) ∧
    ((∃ error, ofTokens stream = .error error) ↔
      leading stream ≠ [] ∧ ∀ query : Query, query.leftNested = true →
        query.tokens ≠ (leading stream).map PlacedToken.token) ∧
    (Begins ((leading stream).map PlacedToken.token) ∨
      ∃ before placed after, leading stream = before ++ placed :: after ∧
        (∀ shorter, shorter <+: before.map PlacedToken.token → Begins shorter) ∧
        ¬Begins ((before ++ [placed]).map PlacedToken.token) ∧
        ofTokens stream =
          .error { unexpected := placed.token, position := placed.position }) ∧
    (∀ last, (leading stream).getLast? = some last →
      Begins ((leading stream).map PlacedToken.token) →
      (∀ query : Query, query.leftNested = true →
        query.tokens ≠ (leading stream).map PlacedToken.token) →
      ofTokens stream =
        .error { unexpected := .endOfInput
                 position := (endMark? stream).getD last.position }) := by
  refine ⟨fun _ => ofTokens_congr, ofTokens_eq_none_iff, ?_, fun _ _ => eq_of_tokens_eq, ?_, ?_,
    fun _ => ofTokens_of_begins⟩
  · intro query
    rw [ofTokens_eq_some_iff, and_comm]
    exact and_congr_right fun _ => ⟨fun h => ⟨flat_of_leftNested h, h⟩, fun h => h.right⟩
  · constructor
    · rintro ⟨error, herror⟩
      refine ⟨?_, ?_⟩
      · intro hnil
        rw [ofTokens_of_leading_eq_nil hnil] at herror
        cases herror
      · intro query hnested htokens
        rw [ofTokens_of_tokens hnested htokens] at herror
        cases herror
    · rintro ⟨hne, hopen⟩
      rcases ofTokens_cases stream hne with ⟨query, hnested, htokens⟩ |
        ⟨before, placed, after, hsplit, hbefore, hstuck⟩ | ⟨last, hlast, hbegins, _⟩
      · exact absurd htokens (hopen query hnested)
      · exact ⟨_, ofTokens_of_stuck hsplit hbefore hstuck⟩
      · exact ⟨_, ofTokens_of_begins hlast hbegins hopen⟩
  · rcases begins_or_exists_stuck (leading stream) with
      hbegins | ⟨before, placed, after, hsplit, hbefore, hstuck⟩
    · exact Or.inl hbegins
    · exact Or.inr ⟨before, placed, after, hsplit, fun _ => hbefore.of_shorter, hstuck,
        ofTokens_of_stuck hsplit hbefore hstuck⟩

theorem ofTokens_inverts_tokens_open :
    (¬Begins [.filter "a".toList, .filter "b".toList] ∧
      ofTokens [⟨.filter "a".toList, 0⟩, ⟨.filter "b".toList, 7⟩, ⟨.endOfInput, 3⟩, ⟨.not, 9⟩] =
        .error { unexpected := .filter "b".toList, position := 7 }) ∧
    (Begins [.not, .filter "A".toList, .or] ∧
      ofTokens [⟨.not, 2⟩, ⟨.filter "A".toList, 4⟩, ⟨.or, 5⟩] =
        .error { unexpected := .endOfInput, position := 5 }) := by
  constructor
  · have hsecond : ¬Begins [.filter "a".toList, .filter "b".toList] := by
      rw [begins_iff]
      rintro ⟨state, hstate⟩
      cases hstate
    refine ⟨hsecond, ?_⟩
    rcases (ofTokens_inverts_tokens [⟨.filter "a".toList, 0⟩, ⟨.filter "b".toList, 7⟩,
      ⟨.endOfInput, 3⟩, ⟨.not, 9⟩]).right.right.right.right.right.left with
        hbegins | ⟨before, placed, after, hsplit, _, hstuck, herror⟩
    · exact absurd hbegins hsecond
    · rcases before with _ | ⟨first, _ | ⟨second, before⟩⟩
      · cases hsplit
        exact absurd (begins_iff.mpr ⟨_, rfl⟩) hstuck
      · cases hsplit
        exact herror
      · simp [leading] at hsplit
  · have hbegins : Begins [.not, .filter "A".toList, .or] := begins_iff.mpr ⟨_, rfl⟩
    refine ⟨hbegins, ?_⟩
    have hend := (ofTokens_inverts_tokens [⟨.not, 2⟩, ⟨.filter "A".toList, 4⟩,
      ⟨.or, 5⟩]).right.right.right.right.right.right ⟨.or, 5⟩ rfl hbegins
    apply hend
    intro query hnested htokens
    rcases exists_after?_tokens hnested with ⟨part, hafter, _⟩
    rw [htokens] at hafter
    cases hafter

end Query
end Polyquery
