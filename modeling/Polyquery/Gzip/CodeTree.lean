/-!
# Prefix codes

Compressed data gives a code by the lengths of its code words alone.  Of two words the shorter comes
first, and of two words of one length that of the smaller symbol, so the lengths determine the words, and
with them the tree in which a word is the way from the root to its symbol.
-/

namespace Polyquery
namespace Gzip

inductive CodeTree where
  | hole
  | leaf (symbol : Nat)
  | node (zero one : CodeTree)
  deriving Repr, DecidableEq

namespace CodeTree

def isComplete : CodeTree → Bool
  | hole => false
  | leaf _ => true
  | node zero one => zero.isComplete && one.isComplete

def parents : List CodeTree → List CodeTree
  | [] => []
  | [tree] => [node tree hole]
  | zero :: one :: rest => node zero one :: parents rest

def symbolsOfLength (lengths : List Nat) (length : Nat) : List Nat :=
  lengths.zipIdx.filterMap fun (given, symbol) => if given = length then some symbol else none

def maxLength : Nat := 15

/-- The trees whose roots stand at depth `maxLength + 1 - levels`, from left to right. -/
def forest (lengths : List Nat) : Nat → List CodeTree
  | 0 => []
  | levels + 1 =>
    (symbolsOfLength lengths (maxLength - levels)).map leaf ++ parents (forest lengths levels)

/-- The tree of a code, if it is one: no two words may collide, and every way must end in a symbol.  A
code that is used loosely may also have a single word of one bit.  A code without words stands as long as
nothing is read with it. -/
def ofLengths? (loose : Bool) (lengths : List Nat) : Option CodeTree :=
  match parents (forest lengths maxLength) with
  | [] => some (node hole hole)
  | [tree] =>
    if tree.isComplete || (loose && lengths.all (· ≤ 1)) then some tree else none
  | _ => none

end CodeTree
end Gzip
end Polyquery
