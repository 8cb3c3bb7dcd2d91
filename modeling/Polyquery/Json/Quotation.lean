import Polyquery.Json.Fault
import Polyquery.Json.Symbol

/-!
# Reading strings

A string is read twice.  First its symbols are cut into units, one for each character or escape, up to
the closing quote; this is all that matters when the string is skipped.  Then the units are put together:
escapes of two surrogates make one character, and a surrogate without its partner is a fault.
-/

namespace Polyquery
namespace Json

inductive StringUnit where
  | char (c : Char)
  /-- A byte that is part of no character. -/
  | stray
  /-- An escape that gives a code unit of UTF-16. -/
  | code (n : Nat)
  deriving Repr, DecidableEq

/-- A fault that ends a string, and whether it shows before the place where a second escape would have
to be recognized as one of a code unit. -/
structure UnitFault where
  fault : Fault
  beforeCode : Bool
  deriving Repr, DecidableEq

namespace Quotation

def simpleEscape? : Char → Option Char
  | '"' => some '"'
  | '\\' => some '\\'
  | '/' => some '/'
  | 'b' => some (Char.ofNat 8)
  | 'f' => some (Char.ofNat 12)
  | 'n' => some '\n'
  | 'r' => some '\r'
  | 't' => some '\t'
  | _ => none

/-- Why four hexadecimal digits cannot be read, where `needed` bytes are still to be taken. -/
def hexFault (needed : Nat) : List Symbol → Fault
  | [] => if needed = 0 then .invalidEscape else .endInString
  | .cut reason :: _ => if needed = 0 then .invalidEscape else .unreadable reason
  | symbol :: rest =>
    if needed = 0 then .invalidEscape else hexFault (needed - symbol.byteSize) rest

def hexCode? (a b c d : Symbol) : Option Nat := do
  let w ← a.hexValue?
  let x ← b.hexValue?
  let y ← c.hexValue?
  let z ← d.hexValue?
  return ((w * 16 + x) * 16 + y) * 16 + z

/-- The units of a string whose opening quote has been read, and what follows it, or the fault at which
the string breaks off. -/
def units : List Symbol → List StringUnit × Except UnitFault (List Symbol)
  | [] => ([], .error { fault := .endInString, beforeCode := false })
  | .cut reason :: _ => ([], .error { fault := .unreadable reason, beforeCode := false })
  | .stray :: rest =>
    let (found, outcome) := units rest
    (.stray :: found, outcome)
  | .char '"' :: rest => ([], .ok rest)
  | .char '\\' :: [] => ([], .error { fault := .endInString, beforeCode := false })
  | .char '\\' :: .cut reason :: _ =>
    ([], .error { fault := .unreadable reason, beforeCode := false })
  | .char '\\' :: .stray :: _ => ([], .error { fault := .invalidEscape, beforeCode := true })
  | .char '\\' :: .char 'u' :: a :: b :: c :: d :: rest =>
    match hexCode? a b c d with
    | some n =>
      let (found, outcome) := units rest
      (.code n :: found, outcome)
    | none =>
      ([], .error { fault := hexFault 4 (a :: b :: c :: d :: rest), beforeCode := false })
  | .char '\\' :: .char 'u' :: rest =>
    ([], .error { fault := hexFault 4 rest, beforeCode := false })
  | .char '\\' :: .char c :: rest =>
    match simpleEscape? c with
    | some e =>
      let (found, outcome) := units rest
      (.char e :: found, outcome)
    | none => ([], .error { fault := .invalidEscape, beforeCode := true })
  | .char c :: rest =>
    if c.toNat < 32 then ([], .error { fault := .controlCharacter, beforeCode := true })
    else
      let (found, outcome) := units rest
      (.char c :: found, outcome)

theorem length_of_units {symbols rest : List Symbol} {found : List StringUnit}
    (h : units symbols = (found, .ok rest)) : rest.length ≤ symbols.length := by
  fun_induction units symbols generalizing found with
  | _ =>
    try simp only [List.length_cons]
    grind

def isLeading (n : Nat) : Bool :=
  decide (0xD800 ≤ n) && decide (n ≤ 0xDBFF)

def isTrailing (n : Nat) : Bool :=
  decide (0xDC00 ≤ n) && decide (n ≤ 0xDFFF)

def join (outcome : Option UnitFault) : List StringUnit → Except Fault Text
  | [] =>
    match outcome with
    | none => .ok []
    | some ending => .error ending.fault
  | .char c :: rest => (join outcome rest).map (c :: ·)
  | .stray :: rest => do
    let _ ← join outcome rest
    .error .invalidCodePoint
  | .code n :: rest =>
    if isTrailing n then .error .loneSurrogate
    else if isLeading n then
      match rest with
      | .code m :: rest =>
        if isTrailing m then
          (join outcome rest).map
            (Char.ofNat (0x10000 + (n - 0xD800) * 0x400 + (m - 0xDC00)) :: ·)
        else .error .loneSurrogate
      | [] =>
        match outcome with
        | none => .error .unfinishedSurrogate
        | some ending =>
          .error (if ending.beforeCode then .unfinishedSurrogate else ending.fault)
      | _ => .error .unfinishedSurrogate
    else (join outcome rest).map (Char.ofNat n :: ·)

end Quotation
end Json
end Polyquery
