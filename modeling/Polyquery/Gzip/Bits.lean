import Polyquery.Text.Utf8

/-!
# Bits

Compressed data is a sequence of bits in which each byte stands with its lowest bit first.  Some parts of
it begin at the next whole byte.
-/

namespace Polyquery
namespace Gzip

structure Bits where
  /-- The bits that are left of the byte that was begun. -/
  begun : List Bool
  bytes : Bytes
  deriving Repr, DecidableEq

namespace Bits

def ofBytes (bytes : Bytes) : Bits :=
  { begun := [], bytes }

def ofByte (byte : UInt8) : List Bool :=
  (List.range 8).map byte.toNat.testBit

def next? : Bits → Option (Bool × Bits)
  | { begun := bit :: begun, bytes } => some (bit, { begun, bytes })
  | { begun := [], bytes := byte :: bytes } =>
    match ofByte byte with
    | bit :: begun => some (bit, { begun, bytes })
    | [] => none
  | { begun := [], bytes := [] } => none

/-- The data from the next whole byte on. -/
def wholeBytes (bits : Bits) : Bytes :=
  bits.bytes

def bound (bits : Bits) : Nat :=
  bits.begun.length + 8 * bits.bytes.length

end Bits

/-- The number that bytes spell, the lowest byte first. -/
def number (bytes : Bytes) : Nat :=
  bytes.foldr (fun byte rest => byte.toNat + 256 * rest) 0

def spelled : Nat → Nat → Bytes
  | 0, _ => []
  | width + 1, n => UInt8.ofNat n :: spelled width (n / 256)

@[simp] theorem length_spelled (width n : Nat) : (spelled width n).length = width := by
  induction width generalizing n with
  | zero => rfl
  | succ width ih => simp [spelled, ih]

theorem number_spelled (width n : Nat) : number (spelled width n) = n % Nat.pow 256 width := by
  induction width generalizing n with
  | zero => simp [spelled, number, Nat.mod_one]
  | succ width ih =>
    have hstep : number (spelled (width + 1) n) =
        n % 256 + 256 * number (spelled width (n / 256)) := by
      simp [spelled, number]
    rw [hstep, ih, Nat.pow_eq, Nat.pow_eq, Nat.pow_succ, Nat.mul_comm _ 256, Nat.mod_mul]

end Gzip
end Polyquery
