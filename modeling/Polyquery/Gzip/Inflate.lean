import Polyquery.Gzip.Bits
import Polyquery.Gzip.CodeTree

/-!
# Inflating

Compressed data is a sequence of blocks.  A block holds bytes as they are, or symbols of two codes: a
byte, the end of the block, or a length, which a distance follows, for a repetition of bytes that came
before.  The codes are fixed ones, or the block begins with their lengths.  What was produced stays at
hand when the data breaks off or is corrupt.
-/

namespace Polyquery
namespace Gzip

inductive Stop where
  | ended
  | corrupt
  deriving Repr, DecidableEq

structure Inflation where
  input : Bits
  output : Array UInt8

abbrev Inflate := ExceptT Stop (StateM Inflation)

namespace Inflate

def stop {α : Type} (reason : Stop) : Inflate α :=
  throw reason

def bit : Inflate Bool := do
  match (← get).input.next? with
  | some (bit, input) =>
    modify fun state => { state with input }
    return bit
  | none => stop .ended

/-- A number of a given width, its lowest bit first. -/
def bits : Nat → Inflate Nat
  | 0 => return 0
  | width + 1 => do
    let low ← bit
    let rest ← bits width
    return low.toNat + 2 * rest

def bytes (count : Nat) : Inflate Bytes := do
  let all := (← get).input.wholeBytes
  if all.length < count then stop .ended
  else
    modify fun state => { state with input := .ofBytes (all.drop count) }
    return all.take count

def symbol : CodeTree → Inflate Nat
  | .hole => stop .corrupt
  | .leaf symbol => return symbol
  | .node zero one => do if ← bit then symbol one else symbol zero

def emit (data : Bytes) : Inflate Unit :=
  modify fun state => { state with output := state.output ++ data }

/-- A block of bytes as they are.  Its size stands before it twice, the second time inverted. -/
def stored : Inflate Unit := do
  let size := number (← bytes 2)
  let inverted := number (← bytes 2)
  if size + inverted = 65535 then
    let all := (← get).input.wholeBytes
    emit (all.take size)
    modify fun state => { state with input := .ofBytes (all.drop size) }
    if all.length < size then stop .ended
  else stop .corrupt

/-- The last bytes of the output once more, from a distance on, as often as needed. -/
def repeated (distance : Nat) : Nat → Array UInt8 → Array UInt8
  | 0, output => output
  | count + 1, output =>
    repeated distance count (output.push (output.getD (output.size - distance) 0))

/-- The least length that a symbol stands for, and how many bits of it follow. -/
def lengthOf (symbol : Nat) : Nat × Nat :=
  let index := symbol - 257
  if index < 8 then (index + 3, 0)
  else if index = 28 then (258, 0)
  else
    let width := index / 4 - 1
    (3 + (4 + index % 4) * Nat.pow 2 width, width)

def distanceOf (symbol : Nat) : Nat × Nat :=
  if symbol < 2 then (symbol + 1, 0)
  else
    let width := symbol / 2 - 1
    (1 + (2 + symbol % 2) * Nat.pow 2 width, width)

def symbols (literals distances : CodeTree) : Nat → Inflate Unit
  | 0 => stop .corrupt
  | bound + 1 => do
    let next ← symbol literals
    if next < 256 then
      emit [UInt8.ofNat next]
      symbols literals distances bound
    else if next = 256 then return ()
    else if 285 < next then stop .corrupt
    else
      let (least, width) := lengthOf next
      let length := least + (← bits width)
      let next ← symbol distances
      if 29 < next then stop .corrupt
      else
        let (least, width) := distanceOf next
        let distance := least + (← bits width)
        if (← get).output.size < distance then stop .corrupt
        else
          modify fun state => { state with output := repeated distance length state.output }
          symbols literals distances bound

def fixedLiterals : CodeTree :=
  (CodeTree.ofLengths? false (List.replicate 144 8 ++ List.replicate 112 9 ++
    List.replicate 24 7 ++ List.replicate 8 8)).getD .hole

def fixedDistances : CodeTree :=
  (CodeTree.ofLengths? false (List.replicate 32 5)).getD .hole

def lengthOrder : List Nat :=
  [16, 17, 18, 0, 8, 7, 9, 6, 10, 5, 11, 4, 12, 3, 13, 2, 14, 1, 15]

/-- The lengths of code words, the last one first, until there are `total` of them, with a bound on the
number of symbols that give them.  Some symbols give several lengths at once. -/
def codeLengths (code : CodeTree) (total : Nat) : Nat → List Nat → Inflate (List Nat)
  | 0, _ => stop .corrupt
  | bound + 1, known =>
    if known.length = total then return known
    else do
      let next ← symbol code
      let more ← match next with
        | 16 => do
          let count := 3 + (← bits 2)
          match known with
          | [] => stop .corrupt
          | last :: _ => pure (List.replicate count last)
        | 17 => do pure (List.replicate (3 + (← bits 3)) 0)
        | 18 => do pure (List.replicate (11 + (← bits 7)) 0)
        | length => pure [length]
      let known := more ++ known
      if total < known.length then stop .corrupt else codeLengths code total bound known

def code (loose : Bool) (lengths : List Nat) : Inflate CodeTree :=
  match CodeTree.ofLengths? loose lengths with
  | some tree => return tree
  | none => stop .corrupt

/-- The two codes of a block that begins with them.  If the code for their lengths has no words, every
bit stands for the length zero. -/
def ownCodes : Inflate (CodeTree × CodeTree) := do
  let literalCount := 257 + (← bits 5)
  let distanceCount := 1 + (← bits 5)
  let lengthCount := 4 + (← bits 4)
  if 286 < literalCount ∨ 30 < distanceCount then stop .corrupt
  else
    let given ← (lengthOrder.take lengthCount).mapM fun symbol => do
      return (symbol, ← bits 3)
    let lengths := (List.range 19).map fun symbol => (given.lookup symbol).getD 0
    let lengthCode ←
      if lengths.all (· = 0) then pure (.node (.leaf 0) (.leaf 0)) else code false lengths
    let total := literalCount + distanceCount
    let lengths := (← codeLengths lengthCode total (total + 1) []).reverse
    if lengths.getD 256 0 = 0 then stop .corrupt
    else
      let literals ← code true (lengths.take literalCount)
      let distances ← code true (lengths.drop literalCount)
      return (literals, distances)

/-- All blocks, with a bound on their number and on the number of symbols in each. -/
def blocks : Nat → Inflate Unit
  | 0 => stop .corrupt
  | bound + 1 => do
    let last ← bit
    match ← bits 2 with
    | 0 => stored
    | 1 => symbols fixedLiterals fixedDistances bound
    | 2 => do
      let (literals, distances) ← ownCodes
      symbols literals distances bound
    | _ => stop .corrupt
    if last then return () else blocks bound

end Inflate

def inflate (input : Bytes) : Bytes × Except Stop Bytes :=
  let start : Inflation := { input := .ofBytes input, output := #[] }
  let (outcome, final) := (Inflate.blocks (start.input.bound + 1)).run.run start
  (final.output.toList, outcome.map fun _ => final.input.wholeBytes)

end Gzip
end Polyquery
