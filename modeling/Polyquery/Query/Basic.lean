import Polyquery.Text

/-!
# Queries

A query is a tree of terms.  Negation applies to single terms only, and the written form has no
parentheses, so the printed text of a tree shows its leaves and operators but not its grouping.
-/

namespace Polyquery

inductive Query where
  | filter (term : Text)
  | not (term : Text)
  | and (left right : Query)
  | or (left right : Query)
  deriving Repr, DecidableEq

structure Leaf where
  negated : Bool
  term : Text
  deriving Repr, DecidableEq

namespace Query

def render : Query → Text
  | .filter term => term
  | .not term => '!' :: term
  | .and left right => left.render ++ '&' :: right.render
  | .or left right => left.render ++ ',' :: right.render

def leaves : Query → List Leaf
  | .filter term => [{ negated := false, term := term }]
  | .not term => [{ negated := true, term := term }]
  | .and left right => left.leaves ++ right.leaves
  | .or left right => left.leaves ++ right.leaves

/-- For every conjunction of the tree, outer ones first, all leaves below it. -/
def conjunctions : Query → List (List Leaf)
  | .filter _ => []
  | .not _ => []
  | .and left right => (left.leaves ++ right.leaves) :: (left.conjunctions ++ right.conjunctions)
  | .or left right => left.conjunctions ++ right.conjunctions

end Query
end Polyquery
