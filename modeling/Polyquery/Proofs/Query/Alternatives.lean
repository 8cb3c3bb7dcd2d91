import Polyquery.Proofs.Query.Pieces
import Polyquery.Query.Parser

/-!
# Alternatives

The disjunctions of a query cut its segments into alternatives.  The tree of a query is its leaves folded
to the left, first within each alternative and then over the alternatives.  The parser keeps the same tree
in two parts, the closed alternatives and the open conjunction.
-/

namespace Polyquery

namespace Query

def leftFold (join : Query → Query → Query) : List Query → Option Query
  | [] => none
  | first :: rest => some (rest.foldl join first)

def ofAlternatives (leaves : List (List Query)) : Option Query :=
  (leaves.mapM (leftFold .and)).bind (leftFold .or)

theorem exists_leftFold (join : Query → Query → Query) {queries : List Query}
    (h : queries ≠ []) : ∃ query, leftFold join queries = some query := by
  cases queries with
  | nil => exact absurd rfl h
  | cons first rest => exact ⟨rest.foldl join first, rfl⟩

theorem exists_mapM_leftFold (join : Query → Query → Query) {leaves : List (List Query)}
    (hruns : ∀ run ∈ leaves, run ≠ []) :
    ∃ queries, leaves.mapM (leftFold join) = some queries ∧ queries.length = leaves.length := by
  induction leaves with
  | nil => exact ⟨[], rfl, rfl⟩
  | cons first rest ih =>
      rcases exists_leftFold join (hruns first List.mem_cons_self) with ⟨query, hquery⟩
      rcases ih fun run hrun => hruns run (List.mem_cons_of_mem _ hrun) with
        ⟨queries, hmap, hlength⟩
      refine ⟨query :: queries, ?_, by rw [List.length_cons, List.length_cons, hlength]⟩
      rw [List.mapM_cons, hquery, hmap]
      rfl

theorem exists_ofAlternatives {leaves : List (List Query)} (hne : leaves ≠ [])
    (hruns : ∀ run ∈ leaves, run ≠ []) : ∃ query, ofAlternatives leaves = some query := by
  rcases exists_mapM_leftFold .and hruns with ⟨queries, hmap, hlength⟩
  have hqueries : queries ≠ [] := by
    intro hnil
    rw [hnil] at hlength
    exact hne (List.length_eq_zero_iff.mp hlength.symm)
  rcases exists_leftFold .or hqueries with ⟨query, hquery⟩
  refine ⟨query, ?_⟩
  rw [ofAlternatives, hmap]
  exact hquery

end Query

namespace Piece

def alternatives : List Piece → List (List Text)
  | [] => [[]]
  | .segment s :: rest => (alternatives rest).modifyHead (s :: ·)
  | .separator c :: rest =>
    if Operator.ofChar? c = some .or then [] :: alternatives rest else alternatives rest

theorem alternatives_ne_nil (pieces : List Piece) : alternatives pieces ≠ [] := by
  induction pieces with
  | nil => exact List.cons_ne_nil _ _
  | cons piece rest ih =>
      cases piece with
      | segment s =>
          rw [alternatives]
          cases halts : alternatives rest with
          | nil => exact absurd halts ih
          | cons run runs => exact List.cons_ne_nil _ _
      | separator c =>
          rw [alternatives]
          split
          · exact List.cons_ne_nil _ _
          · exact ih

theorem alternatives_segment (s : Text) : alternatives [.segment s] = [[s]] := rfl

theorem alternatives_or {c : Char} (hc : Operator.ofChar? c = some .or) (s : Text)
    (rest : List Piece) :
    alternatives (.segment s :: .separator c :: rest) = [s] :: alternatives rest := by
  rw [alternatives, alternatives, if_pos hc]
  rfl

theorem alternatives_and {c : Char} (hc : Operator.ofChar? c ≠ some .or) (s : Text)
    (rest : List Piece) :
    alternatives (.segment s :: .separator c :: rest) =
      (alternatives rest).modifyHead (s :: ·) := by
  rw [alternatives, alternatives, if_neg hc]

theorem Alternating.alternatives_nonempty {pieces : List Piece} (h : Alternating pieces) :
    alternatives pieces ≠ [] ∧ ∀ run ∈ alternatives pieces, run ≠ [] := by
  induction h with
  | last _ => simp [alternatives]
  | @cons s c rest _ _ _ ih =>
      rcases ih with ⟨hne, hruns⟩
      by_cases hor : Operator.ofChar? c = some .or
      · rw [alternatives_or hor]
        refine ⟨List.cons_ne_nil _ _, ?_⟩
        intro run hrun
        rcases List.mem_cons.mp hrun with rfl | hrun
        · exact List.cons_ne_nil _ _
        · exact hruns run hrun
      · rw [alternatives_and hor]
        cases halts : alternatives rest with
        | nil => exact absurd halts hne
        | cons first others =>
            rw [halts] at hruns
            refine ⟨List.cons_ne_nil _ _, ?_⟩
            intro run hrun
            rcases List.mem_cons.mp hrun with rfl | hrun
            · exact List.cons_ne_nil _ _
            · exact hruns run (List.mem_cons_of_mem _ hrun)

theorem mem_of_mem_alternatives {pieces : List Piece} {run : List Text} {s : Text}
    (hrun : run ∈ alternatives pieces) (hs : s ∈ run) : .segment s ∈ pieces := by
  induction pieces generalizing run with
  | nil =>
      cases List.mem_singleton.mp hrun
      cases hs
  | cons piece rest ih =>
      cases piece with
      | segment t =>
          rw [alternatives] at hrun
          cases halts : alternatives rest with
          | nil =>
              rw [halts] at hrun
              cases hrun
          | cons first others =>
              rw [halts, List.modifyHead_cons] at hrun
              rw [halts] at ih
              rcases List.mem_cons.mp hrun with rfl | hrun
              · rcases List.mem_cons.mp hs with rfl | hs
                · exact List.mem_cons_self
                · exact List.mem_cons_of_mem _ (ih List.mem_cons_self hs)
              · exact List.mem_cons_of_mem _ (ih (List.mem_cons_of_mem _ hrun) hs)
      | separator c =>
          rw [alternatives] at hrun
          split at hrun
          · rcases List.mem_cons.mp hrun with rfl | hrun
            · cases hs
            · exact List.mem_cons_of_mem _ (ih hrun hs)
          · exact List.mem_cons_of_mem _ (ih hrun hs)

theorem flatten_alternatives (pieces : List Piece) :
    (alternatives pieces).flatten = pieces.filterMap segment? := by
  induction pieces with
  | nil => rfl
  | cons piece rest ih =>
      cases piece with
      | segment s =>
          have hsegment : segment? (.segment s) = some s := rfl
          rw [alternatives, List.filterMap_cons_some hsegment, ← ih]
          cases halts : alternatives rest with
          | nil => exact absurd halts (alternatives_ne_nil rest)
          | cons run runs => rfl
      | separator c =>
          have hseparator : segment? (.separator c) = none := rfl
          rw [alternatives, List.filterMap_cons_none hseparator, ← ih]
          split
          · rfl
          · rfl

end Piece

/-!
# The leaves of a query in the parser

Reading the leaves of one alternative extends the open conjunction, and passing to the next alternative
closes it.
-/

namespace ParsedPart

def pushAll (part : ParsedPart) (leaves : List Query) : ParsedPart :=
  leaves.foldl push part

def closeAll (part : ParsedPart) (leaves : List (List Query)) : ParsedPart :=
  leaves.foldl (fun read alternative => read.close.pushAll alternative) part

theorem pushAll_leaves (alternatives : Option Query) (first : Query) (rest : List Query) :
    pushAll { alternatives := alternatives, conjunction := some first } rest =
      { alternatives := alternatives, conjunction := some (rest.foldl .and first) } := by
  induction rest generalizing first with
  | nil => rfl
  | cons leaf rest ih =>
      rw [List.foldl_cons, ← ih (.and first leaf)]
      rfl

theorem pushAll_of_leftFold {leaves : List Query} {query : Query}
    (h : Query.leftFold .and leaves = some query) (alternatives : Option Query) :
    pushAll { alternatives := alternatives, conjunction := none } leaves =
      { alternatives := alternatives, conjunction := some query } := by
  cases leaves with
  | nil => cases h
  | cons first rest =>
      cases h
      exact pushAll_leaves alternatives first rest

theorem query?_closeAll {leaves : List (List Query)} {queries : List Query}
    (h : leaves.mapM (Query.leftFold .and) = some queries) {part : ParsedPart} {query : Query}
    (hpart : part.query? = some query) :
    (part.closeAll leaves).query? = some (queries.foldl .or query) := by
  induction leaves generalizing queries part query with
  | nil =>
      cases h
      exact hpart
  | cons first rest ih =>
      rw [List.mapM_cons] at h
      simp only [Option.bind_eq_bind, Option.bind_eq_some_iff, Option.pure_def,
        Option.some.injEq] at h
      rcases h with ⟨conjunction, hfirst, others, hrest, rfl⟩
      have hclose : part.close = { alternatives := some query, conjunction := none } := by
        rw [close, hpart]
      have hnext : (part.close.pushAll first).query? = some (.or query conjunction) := by
        rw [hclose, pushAll_of_leftFold hfirst]
        rfl
      exact ih hrest hnext

theorem query?_ofAlternatives {first : List Query} {others : List (List Query)} {query : Query}
    (h : Query.ofAlternatives (first :: others) = some query) :
    ((empty.pushAll first).closeAll others).query? = some query := by
  rw [Query.ofAlternatives, List.mapM_cons] at h
  simp only [Option.bind_eq_bind, Option.bind_eq_some_iff, Option.pure_def,
    Option.some.injEq] at h
  rcases h with ⟨queries, ⟨conjunction, hfirst, rest, hrest, rfl⟩, hquery⟩
  cases hquery
  refine query?_closeAll hrest ?_
  rw [empty, pushAll_of_leftFold hfirst]
  rfl

end ParsedPart

end Polyquery
