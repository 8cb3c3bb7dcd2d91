import Mathlib.Logic.Function.Basic
import Polyquery.Proofs.Query.Reader
import Polyquery.Proofs.Query.Spelling

/-!
# Streams that are copied and set back

Several streams of one query are asked for tokens in any order; now and then one is set back to the start or
replaced by a copy of another.  What they answer does not depend on how a stream keeps its place: by the byte
at which it stands, by the rest of the text, or by the number of tokens that were taken from it.
-/

namespace Polyquery
namespace Token

open Text Unicode

inductive Request where
  | next (name : Nat)
  | nextPlaced (name : Nat)
  | restart (name : Nat)
  | copy (source target : Nat)
  deriving Repr, DecidableEq

inductive Reply where
  | token (token : Option Token)
  | placed (placed : Option PlacedToken)
  | done
  deriving Repr, DecidableEq

/-- A way to keep a place in a token stream.  Taking the next token may fail. -/
structure Supply (σ : Type) where
  next? : σ → Option (Option PlacedToken × σ)
  restart : σ → σ

namespace Supply

variable {σ τ : Type}

def take? (supply : Supply σ) (streams : Nat → σ) (name : Nat) :
    Option (Option PlacedToken × (Nat → σ)) :=
  (supply.next? (streams name)).map fun (placed, after) =>
    (placed, Function.update streams name after)

def serve? (supply : Supply σ) (streams : Nat → σ) : Request → Option (Reply × (Nat → σ))
  | .next name =>
    (supply.take? streams name).map fun (placed, after) =>
      (.token (placed.map PlacedToken.token), after)
  | .nextPlaced name =>
    (supply.take? streams name).map fun (placed, after) => (.placed placed, after)
  | .restart name =>
    some (.done, Function.update streams name (supply.restart (streams name)))
  | .copy source target => some (.done, Function.update streams target (streams source))

def serveAll? (supply : Supply σ) : List Request → (Nat → σ) → Option (List Reply × (Nat → σ))
  | [], streams => some ([], streams)
  | request :: requests, streams =>
    (supply.serve? streams request).bind fun (reply, after) =>
      (supply.serveAll? requests after).map fun (replies, last) => (reply :: replies, last)

/-- Places that are related give the same token and lead to related places. -/
structure Agree (R : σ → τ → Prop) (left : Supply σ) (right : Supply τ) : Prop where
  next : ∀ {place other}, R place other → ∃ placed after following,
    left.next? place = some (placed, after) ∧ right.next? other = some (placed, following) ∧
      R after following
  restart : ∀ {place other}, R place other → R (left.restart place) (right.restart other)

variable {R : σ → τ → Prop} {left : Supply σ} {right : Supply τ}

theorem forall_update {streams : Nat → σ} {others : Nat → τ} {place : σ} {other : τ}
    (hstreams : ∀ name, R (streams name) (others name)) (hplace : R place other) (target : Nat) :
    ∀ name, R (Function.update streams target place name)
      (Function.update others target other name) := by
  intro name
  by_cases hname : name = target
  · rw [hname, Function.update_self, Function.update_self]
    exact hplace
  · rw [Function.update_of_ne hname, Function.update_of_ne hname]
    exact hstreams name

theorem Agree.take? (h : Agree R left right) {streams : Nat → σ} {others : Nat → τ}
    (hstreams : ∀ name, R (streams name) (others name)) (name : Nat) :
    ∃ placed after following, left.take? streams name = some (placed, after) ∧
      right.take? others name = some (placed, following) ∧
      ∀ name, R (after name) (following name) := by
  rcases h.next (hstreams name) with ⟨placed, after, following, hleft, hright, hafter⟩
  refine ⟨placed, Function.update streams name after, Function.update others name following,
    ?_, ?_, forall_update hstreams hafter name⟩
  · rw [Supply.take?, hleft]
    rfl
  · rw [Supply.take?, hright]
    rfl

theorem Agree.serve? (h : Agree R left right) {streams : Nat → σ} {others : Nat → τ}
    (hstreams : ∀ name, R (streams name) (others name)) (request : Request) :
    ∃ reply after following, left.serve? streams request = some (reply, after) ∧
      right.serve? others request = some (reply, following) ∧
      ∀ name, R (after name) (following name) := by
  cases request with
  | next name =>
      rcases h.take? hstreams name with ⟨placed, after, following, hleft, hright, hafter⟩
      refine ⟨.token (placed.map PlacedToken.token), after, following, ?_, ?_, hafter⟩
      · rw [Supply.serve?, hleft]
        rfl
      · rw [Supply.serve?, hright]
        rfl
  | nextPlaced name =>
      rcases h.take? hstreams name with ⟨placed, after, following, hleft, hright, hafter⟩
      refine ⟨.placed placed, after, following, ?_, ?_, hafter⟩
      · rw [Supply.serve?, hleft]
        rfl
      · rw [Supply.serve?, hright]
        rfl
  | restart name =>
      exact ⟨.done, _, _, rfl, rfl, forall_update hstreams (h.restart (hstreams name)) name⟩
  | copy source target =>
      exact ⟨.done, _, _, rfl, rfl, forall_update hstreams (hstreams source) target⟩

theorem Agree.serveAll? (h : Agree R left right) {streams : Nat → σ} {others : Nat → τ}
    (hstreams : ∀ name, R (streams name) (others name)) (requests : List Request) :
    ∃ replies after following, left.serveAll? requests streams = some (replies, after) ∧
      right.serveAll? requests others = some (replies, following) ∧
      ∀ name, R (after name) (following name) := by
  induction requests generalizing streams others with
  | nil => exact ⟨[], streams, others, rfl, rfl, hstreams⟩
  | cons request requests ih =>
      rcases h.serve? hstreams request with ⟨reply, middle, centre, hleft, hright, hmiddle⟩
      rcases ih hmiddle with ⟨replies, after, following, hleftAll, hrightAll, hafter⟩
      refine ⟨reply :: replies, after, following, ?_, ?_, hafter⟩
      · simp only [Supply.serveAll?, hleft, Option.bind_some, hleftAll, Option.map_some]
      · simp only [Supply.serveAll?, hright, Option.bind_some, hrightAll, Option.map_some]

end Supply

/-!
# Three ways to keep a place
-/

def cursors : Supply Cursor :=
  { next? := fun cursor => some cursor.next, restart := Cursor.restart }

def readers : Supply Reader :=
  { next? := Reader.next?, restart := Reader.restart }

/-- The place is the number of tokens of a list that were taken since the last restart.  Behind the last one
there is nothing to take. -/
def counts (tokens : List PlacedToken) : Supply Nat :=
  { next? := fun taken =>
      match tokens[taken]? with
      | some placed => some (some placed, taken + 1)
      | none => some (none, taken)
    restart := fun _ => 0 }

theorem agree_readers_cursors :
    Supply.Agree (fun reader cursor => cursor.Keeps ∧ reader = cursor.reader) readers cursors where
  next := by
    rintro _ cursor ⟨hkeeps, rfl⟩
    exact ⟨_, _, _, Cursor.next?_reader hkeeps, rfl, Cursor.keeps_next hkeeps, rfl⟩
  restart := by
    rintro _ cursor ⟨_, rfl⟩
    exact ⟨Cursor.keeps_restart cursor, rfl⟩

namespace Cursor

theorem input_next (cursor : Cursor) : cursor.next.2.input = cursor.input := by
  rw [next]
  split <;> rfl

theorem remaining_of_finished {cursor : Cursor} (h : cursor.finished = true) :
    cursor.remaining = [] := by
  rw [remaining, if_pos h]

theorem remaining_of_going {cursor : Cursor} (h : cursor.finished = false) :
    cursor.remaining = listFrom cursor.position cursor.rest := by
  rw [remaining, h, if_neg Bool.false_ne_true]

theorem next_eq_head? (cursor : Cursor) : cursor.next.1 = cursor.remaining.head? := by
  cases hfinished : cursor.finished with
  | true =>
      rw [next, remaining_of_finished hfinished, hfinished]
      rfl
  | false =>
      rw [next, remaining_of_going hfinished, hfinished, if_neg Bool.false_ne_true, listFrom]
      split <;> rfl

theorem remaining_next (cursor : Cursor) : cursor.next.2.remaining = cursor.remaining.tail := by
  cases hfinished : cursor.finished with
  | true =>
      rw [next, hfinished, if_pos rfl, remaining_of_finished hfinished, List.tail_nil]
  | false =>
      rw [next, remaining_of_going hfinished, hfinished, if_neg Bool.false_ne_true]
      by_cases hend : (Lexeme.read cursor.position cursor.rest).token = .endOfInput
      · rw [listFrom_of_end hend, List.tail_cons]
        exact remaining_of_finished (decide_eq_true hend)
      · rw [listFrom_of_token hend, List.tail_cons]
        exact remaining_of_going (decide_eq_false hend)

end Cursor

theorem agree_cursors_counts (text : Text) :
    Supply.Agree
      (fun cursor taken => cursor.input = text ∧ cursor.remaining = (list text).drop taken)
      cursors (counts (list text)) where
  next := by
    rintro cursor taken ⟨hinput, hremaining⟩
    have hnext : cursor.next.1 = (list text)[taken]? := by
      rw [cursor.next_eq_head?, hremaining, List.head?_drop]
    have hinputNext : cursor.next.2.input = text := by rw [cursor.input_next, hinput]
    cases htaken : (list text)[taken]? with
    | some placed =>
        refine ⟨some placed, cursor.next.2, taken + 1, ?_, ?_, hinputNext, ?_⟩
        · rw [← htaken, ← hnext]
          rfl
        · simp only [counts, htaken]
        · rw [cursor.remaining_next, hremaining, List.tail_drop]
    | none =>
        have hnil : (list text).drop taken = [] :=
          List.drop_eq_nil_iff.mpr (List.getElem?_eq_none_iff.mp htaken)
        refine ⟨none, cursor.next.2, taken, ?_, ?_, hinputNext, ?_⟩
        · rw [← htaken, ← hnext]
          rfl
        · simp only [counts, htaken]
        · rw [cursor.remaining_next, hremaining, hnil, List.tail_nil]
  restart := by
    rintro cursor taken ⟨hinput, _⟩
    refine ⟨hinput, ?_⟩
    show (Cursor.start cursor.input).remaining = _
    rw [hinput]
    rfl

/-- However the streams of a query keep their places, they answer alike, and each has left what is left of
the tokens behind those that were taken from it. -/
theorem serveAll?_agree (text : Text) (requests : List Request) :
    ∃ replies reading keeping taken,
      readers.serveAll? requests (fun _ => Reader.start text) = some (replies, reading) ∧
      cursors.serveAll? requests (fun _ => Cursor.start text) = some (replies, keeping) ∧
      (counts (list text)).serveAll? requests (fun _ => 0) = some (replies, taken) ∧
      ∀ name, reading name = (keeping name).reader ∧
        (keeping name).remaining = (list text).drop (taken name) := by
  have hstart : ∀ _name : Nat, (Cursor.start text).Keeps ∧
      Reader.start text = (Cursor.start text).reader := fun _ => ⟨Cursor.keeps_start text, rfl⟩
  have hcount : ∀ _name : Nat, (Cursor.start text).input = text ∧
      (Cursor.start text).remaining = (list text).drop 0 := fun _ => ⟨rfl, rfl⟩
  rcases agree_readers_cursors.serveAll? hstart requests with
    ⟨replies, reading, keeping, hreading, hkeeping, hreaders⟩
  rcases (agree_cursors_counts text).serveAll? hcount requests with
    ⟨replies', keeping', taken, hkeeping', htaken, hcounts⟩
  rw [hkeeping] at hkeeping'
  cases hkeeping'
  exact ⟨replies, reading, keeping, taken, hreading, hkeeping, htaken,
    fun name => ⟨(hreaders name).right, (hcounts name).right⟩⟩

/-!
# The stream of a query
-/

/-- The tokens of a text lose nothing of it and end with the one end marker.  Between the bytes of two
neighbours the text has the first of them as it is written.  Streams of the text that are read in any order,
set back and copied give these tokens again, and no slice of the text fails on the way. -/
theorem list_spells_and_replays (text : Text) :
    (∃ body, list text = body ++ [{ token := .endOfInput, position := byteSize text }] ∧
      ∀ placed ∈ body, placed.token ≠ .endOfInput) ∧
    (list text).Pairwise (fun left right => left.position < right.position) ∧
    (∀ placed ∈ list text, (tailAt? placed.position text).isSome = true) ∧
    (∃ first blank, first ∈ (list text).head? ∧ slice? 0 first.position text = some blank ∧
      ∀ c ∈ blank, isBlank c = true) ∧
    ((list text).IsChain fun left right =>
      ∃ spelling, slice? left.position right.position text = some spelling ∧
        left.token.SpelledBy spelling) ∧
    ((list text).map PlacedToken.token).IsChain Apart ∧
    ∀ requests, ∃ replies reading keeping taken,
      readers.serveAll? requests (fun _ => Reader.start text) = some (replies, reading) ∧
      cursors.serveAll? requests (fun _ => Cursor.start text) = some (replies, keeping) ∧
      (counts (list text)).serveAll? requests (fun _ => 0) = some (replies, taken) ∧
      ∀ name, reading name = (keeping name).reader ∧
        (keeping name).remaining = (list text).drop (taken name) := by
  have hend := listFrom_eq_bodyFrom 0 text
  rw [Nat.zero_add] at hend
  rcases spelled_listFrom 0 text with ⟨blank, rest, htext, hblank, hspelled⟩
  rw [Nat.zero_add] at hspelled
  refine ⟨⟨bodyFrom 0 text, hend, ?_⟩, hspelled.pairwise_lt, ?_, ?_, ?_, ?_,
    serveAll?_agree text⟩
  · intro placed hplaced
    exact ne_endOfInput_of_mem_body (List.mem_map_of_mem hplaced)
  · intro placed hplaced
    rcases hspelled.exists_before placed hplaced with ⟨before, after, hrest, hplace⟩
    have hboundary : tailAt? placed.position text = some after := by
      rw [hplace, htext, hrest, ← List.append_assoc, ← byteSize_append]
      exact tailAt?_append (blank ++ before) after
    rw [hboundary]
    rfl
  · have hne : list text ≠ [] := by
      rw [list, hend]
      exact List.append_ne_nil_of_right_ne_nil _ (List.cons_ne_nil _ _)
    have hfirst : (list text).head hne ∈ (list text).head? := List.head?_eq_some_head hne
    refine ⟨(list text).head hne, blank, hfirst, ?_, hblank⟩
    rw [hspelled.position_of_head? _ hfirst, htext]
    exact slice?_zero blank rest
  · have h := hspelled.isChain_slice? rfl
    rw [← htext] at h
    exact h
  · rw [map_token_list]
    exact isChain_body_append text rfl

def dottedTerms : Text :=
  "İ &a".toList

def dottedRequests : List Request :=
  [.next 0, .copy 0 1, .restart 0, .next 1, .next 1, .nextPlaced 0, .next 1, .next 1]

theorem list_spells_and_replays_dotted :
    { token := .and, position := 3 } ∈ list dottedTerms ∧
      (tailAt? 3 dottedTerms).isSome = true ∧
      ∃ reading,
        readers.serveAll? dottedRequests (fun _ => Reader.start dottedTerms) =
        some ([.token (some (.filter "i̇".toList)), .done, .done, .token (some .and),
          .token (some (.filter "a".toList)),
          .placed (some { token := .filter "i̇".toList, position := 0 }),
          .token (some .endOfInput), .token none], reading) := by
  have hlist : list dottedTerms =
      [⟨.filter "i̇".toList, 0⟩, ⟨.and, 3⟩, ⟨.filter "a".toList, 4⟩, ⟨.endOfInput, 5⟩] := by
    decide +kernel
  have hmember : { token := .and, position := 3 } ∈ list dottedTerms := by
    rw [hlist]
    decide
  rcases list_spells_and_replays dottedTerms with ⟨_, _, hboundary, _, _, _, hreplay⟩
  rcases hreplay dottedRequests with ⟨replies, reading, keeping, taken, hreading, _, htaken, _⟩
  refine ⟨hmember, hboundary _ hmember, reading, ?_⟩
  rw [hlist] at htaken
  have hreplies : replies = _ := (Option.some.inj (congrArg (Option.map Prod.fst) htaken)).symm
  rw [hreading, hreplies]
  rfl

end Token
end Polyquery
