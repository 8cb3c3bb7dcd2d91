import Polyquery.Unicode.Interval

/-!
# Search trees

A table of characters is a list of entries for intervals of code points, in ascending order.  Tables with
hundreds of entries are searched by halving: the entry in the middle is the root of a tree, with the entries
for smaller code points on its left and those for larger ones on its right.
-/

namespace Polyquery
namespace Unicode

inductive SearchTree (α : Type) where
  | leaf
  | node (left : SearchTree α) (entry : α) (right : SearchTree α)

namespace SearchTree

variable {α : Type}

def ofTable : Nat → List α → SearchTree α
  | 0, _ => .leaf
  | depth + 1, table =>
    match table.drop (table.length / 2) with
    | [] => .leaf
    | entry :: rest =>
      .node (ofTable depth (table.take (table.length / 2))) entry (ofTable depth rest)

/-- The entry for a code point, where `span` gives the code points of an entry. -/
def find? (span : α → Interval) (code : Nat) : SearchTree α → Option α
  | .leaf => none
  | .node left entry right =>
    if code < (span entry).first then left.find? span code
    else if code ≤ (span entry).last then some entry
    else right.find? span code

end SearchTree
end Unicode
end Polyquery
