import Polyquery.Json.Numeral
import Polyquery.Json.Quotation

/-!
# Marks

The symbols of a JSON text are grouped into marks: brackets, commas, colons, and scalar values.  A text
may be read for its values or skipped over, and a few faults have one name when read and another when
skipped, so a broken mark carries both.
-/

namespace Polyquery
namespace Json

/-- How a text ends: as it should, or because it cannot be read on. -/
inductive Ending where
  | finished
  | unreadable (reason : Text)
  deriving Repr, DecidableEq

/-- The fault of a text that ends too early, which is `fault` unless the text is unreadable. -/
def Ending.fault (ending : Ending) (fault : Fault) : Fault :=
  match ending with
  | .finished => fault
  | .unreadable reason => .unreadable reason

inductive Scalar where
  | null
  | boolean (b : Bool)
  | number (numeral : Numeral)
  | string (content : Except Fault Text)
  deriving Repr

inductive Mark where
  | scalar (value : Scalar)
  | openList
  | closeList
  | openObject
  | closeObject
  | comma
  | colon
  /-- A string that does not end: the fault for one who reads it and for one who skips it. -/
  | brokenString (read skipped : Fault)
  | broken (read skipped : Fault)
  | ended (ending : Ending)
  deriving Repr

namespace Mark

def isGap (c : Char) : Bool :=
  c == ' ' || c == '\n' || c == '\t' || c == '\r'

def word : List Char → List Symbol → Except Fault (List Symbol)
  | [], rest => .ok rest
  | _ :: _, [] => .error .endInValue
  | _ :: _, .cut reason :: _ => .error (.unreadable reason)
  | c :: expected, symbol :: rest =>
    if symbol = .char c then word expected rest else .error .expectedIdent

def digits (symbols : List Symbol) : Text :=
  (symbols.takeWhile Symbol.isDigit).filterMap Symbol.digit?

def afterDigits (symbols : List Symbol) : List Symbol :=
  symbols.dropWhile Symbol.isDigit

def noDigit : List Symbol → Fault × Fault
  | [] => (.endInValue, .invalidNumber)
  | .cut reason :: _ => (.unreadable reason, .unreadable reason)
  | _ => (.invalidNumber, .invalidNumber)

def someDigits (symbols : List Symbol) : Except (Fault × Fault) (Text × List Symbol) :=
  if (digits symbols).isEmpty then .error (noDigit symbols)
  else .ok (digits symbols, afterDigits symbols)

def sign : List Symbol → Bool × List Symbol
  | .char '-' :: rest => (true, rest)
  | .char '+' :: rest => (false, rest)
  | rest => (false, rest)

def exponent : List Symbol → Except (Fault × Fault) (Option (Bool × Text) × List Symbol)
  | .char c :: rest =>
    if c = 'e' ∨ c = 'E' then
      (someDigits (sign rest).2).map fun (found, rest') => (some ((sign rest).1, found), rest')
    else .ok (none, .char c :: rest)
  | rest => .ok (none, rest)

def fraction : List Symbol → Except (Fault × Fault) (Option Text × List Symbol)
  | .char '.' :: rest => (someDigits rest).map fun (found, rest') => (some found, rest')
  | rest => .ok (none, rest)

/-- Reads the digits before the point.  A zero stands alone. -/
def whole (symbols : List Symbol) : Except (Fault × Fault) (Text × List Symbol) :=
  match digits symbols with
  | [] => .error (noDigit symbols)
  | '0' :: _ :: _ => .error (.invalidNumber, .invalidNumber)
  | found => .ok (found, afterDigits symbols)

def numeral (negative : Bool) (symbols : List Symbol) :
    Except (Fault × Fault) (Numeral × List Symbol) := do
  let (digits, rest) ← whole symbols
  let (decimals, rest) ← fraction rest
  let (power, rest) ← exponent rest
  match rest with
  | .cut reason :: _ => .error (.unreadable reason, .unreadable reason)
  | _ =>
    return ({ negative := negative, whole := digits, fraction := decimals, exponent := power },
      rest)

def quotation (symbols : List Symbol) : Mark × List Symbol :=
  match Quotation.units symbols with
  | (found, .ok rest) => (.scalar (.string (Quotation.join none found)), rest)
  | (found, .error ending) =>
    match Quotation.join (some ending) found with
    | .ok _ => (.brokenString ending.fault ending.fault, [])
    | .error fault => (.brokenString fault ending.fault, [])

def named (value : Scalar) (letters : List Char) (symbols : List Symbol) : Mark × List Symbol :=
  match word letters symbols with
  | .ok rest => (.scalar value, rest)
  | .error fault => (.broken fault fault, [])

def number (negative : Bool) (symbols : List Symbol) : Mark × List Symbol :=
  match numeral negative symbols with
  | .ok (found, rest) => (.scalar (.number found), rest)
  | .error (read, skipped) => (.broken read skipped, [])

def beginning (c : Char) (rest : List Symbol) : Mark × List Symbol :=
  match c with
  | '[' => (.openList, rest)
  | ']' => (.closeList, rest)
  | '\x7b' => (.openObject, rest)
  | '\x7d' => (.closeObject, rest)
  | ',' => (.comma, rest)
  | ':' => (.colon, rest)
  | '"' => quotation rest
  | 'n' => named .null "ull".toList rest
  | 't' => named (.boolean true) "rue".toList rest
  | 'f' => named (.boolean false) "alse".toList rest
  | '-' => number true rest
  | _ =>
    if c.isDigit then number false (.char c :: rest)
    else (.broken .expectedValue .expectedValue, [])

/-! ### Every mark uses up symbols -/

theorem length_afterDigits_le (symbols : List Symbol) :
    (afterDigits symbols).length ≤ symbols.length :=
  (List.dropWhile_sublist Symbol.isDigit).length_le

theorem length_afterDigits_lt {symbols : List Symbol} (h : digits symbols ≠ []) :
    (afterDigits symbols).length < symbols.length := by
  cases symbols with
  | nil => exact absurd rfl h
  | cons symbol rest =>
    by_cases hdigit : symbol.isDigit = true
    · have hdrop : afterDigits (symbol :: rest) = afterDigits rest := by
        simp [afterDigits, hdigit]
      rw [hdrop]
      exact Nat.lt_succ_of_le (length_afterDigits_le rest)
    · exact absurd (by simp [digits, hdigit]) h

theorem length_of_word {expected : List Char} {symbols rest : List Symbol}
    (h : word expected symbols = .ok rest) : rest.length ≤ symbols.length := by
  induction expected generalizing symbols with
  | nil =>
    cases h
    exact Nat.le_refl _
  | cons c expected ih =>
    cases symbols with
    | nil => cases h
    | cons symbol tail =>
      cases symbol with
      | cut reason => cases h
      | stray => simp [word] at h
      | char d =>
        simp only [word] at h
        split at h
        · exact Nat.le_succ_of_le (ih h)
        · cases h

theorem length_of_whole {symbols rest : List Symbol} {found : Text}
    (h : whole symbols = .ok (found, rest)) : rest.length < symbols.length := by
  unfold whole at h
  split at h
  · cases h
  · cases h
  · rename_i hne _
    cases h
    exact length_afterDigits_lt hne

theorem length_of_someDigits {symbols rest : List Symbol} {found : Text}
    (h : someDigits symbols = .ok (found, rest)) : rest.length ≤ symbols.length := by
  unfold someDigits at h
  split at h
  · cases h
  · cases h
    exact length_afterDigits_le symbols

theorem length_of_sign (symbols : List Symbol) : (sign symbols).2.length ≤ symbols.length := by
  unfold sign
  split
  · exact Nat.le_succ _
  · exact Nat.le_succ _
  · exact Nat.le_refl _

theorem length_of_fraction {symbols rest : List Symbol} {found : Option Text}
    (h : fraction symbols = .ok (found, rest)) : rest.length ≤ symbols.length := by
  unfold fraction at h
  split at h
  · rename_i tail
    cases hdigits : someDigits tail with
    | error fault => simp [hdigits, Except.map] at h
    | ok a =>
      simp only [hdigits, Except.map, Except.ok.injEq, Prod.mk.injEq] at h
      obtain ⟨_, rfl⟩ := h
      exact Nat.le_succ_of_le (length_of_someDigits hdigits)
  · cases h
    exact Nat.le_refl _

theorem length_of_exponent {symbols rest : List Symbol} {found : Option (Bool × Text)}
    (h : exponent symbols = .ok (found, rest)) : rest.length ≤ symbols.length := by
  unfold exponent at h
  split at h
  · rename_i c tail
    split at h
    · cases hdigits : someDigits (sign tail).2 with
      | error fault => simp [hdigits, Except.map] at h
      | ok a =>
        simp only [hdigits, Except.map, Except.ok.injEq, Prod.mk.injEq] at h
        obtain ⟨_, rfl⟩ := h
        exact Nat.le_succ_of_le
          (Nat.le_trans (length_of_someDigits hdigits) (length_of_sign tail))
    · cases h
      exact Nat.le_refl _
  · cases h
    exact Nat.le_refl _

theorem length_of_numeral {negative : Bool} {symbols rest : List Symbol} {found : Numeral}
    (h : numeral negative symbols = .ok (found, rest)) : rest.length < symbols.length := by
  unfold numeral at h
  cases hwhole : whole symbols with
  | error fault => simp [hwhole, bind, Except.bind] at h
  | ok a =>
    obtain ⟨_, rest1⟩ := a
    cases hfraction : fraction rest1 with
    | error fault => simp [hwhole, hfraction, bind, Except.bind] at h
    | ok b =>
      obtain ⟨_, rest2⟩ := b
      cases hexponent : exponent rest2 with
      | error fault => simp [hwhole, hfraction, hexponent, bind, Except.bind] at h
      | ok c =>
        obtain ⟨_, rest3⟩ := c
        simp only [hwhole, hfraction, hexponent, bind, Except.bind, pure, Except.pure] at h
        split at h
        · cases h
        · cases h
          exact Nat.lt_of_le_of_lt (length_of_exponent hexponent)
            (Nat.lt_of_le_of_lt (length_of_fraction hfraction) (length_of_whole hwhole))

theorem length_of_quotation (symbols : List Symbol) :
    (quotation symbols).2.length ≤ symbols.length := by
  unfold quotation
  split
  · rename_i heq
    exact Quotation.length_of_units heq
  · split <;> exact Nat.zero_le _

theorem length_of_named (value : Scalar) (letters : List Char) (symbols : List Symbol) :
    (named value letters symbols).2.length ≤ symbols.length := by
  unfold named
  split
  · rename_i heq
    exact length_of_word heq
  · exact Nat.zero_le _

theorem length_of_number {negative : Bool} {symbols : List Symbol} (h : symbols ≠ []) :
    (number negative symbols).2.length < symbols.length := by
  unfold number
  split
  · rename_i heq
    exact length_of_numeral heq
  · exact List.length_pos_iff.2 h

theorem length_of_beginning (c : Char) (rest : List Symbol) :
    (beginning c rest).2.length ≤ rest.length := by
  unfold beginning
  split
  · exact Nat.le_refl _
  · exact Nat.le_refl _
  · exact Nat.le_refl _
  · exact Nat.le_refl _
  · exact Nat.le_refl _
  · exact Nat.le_refl _
  · exact length_of_quotation rest
  · exact length_of_named _ _ rest
  · exact length_of_named _ _ rest
  · exact length_of_named _ _ rest
  · cases rest with
    | nil => exact Nat.le_refl _
    | cons symbol tail => exact Nat.le_of_lt (length_of_number (List.cons_ne_nil symbol tail))
  · split
    · exact Nat.le_of_lt_succ (length_of_number (List.cons_ne_nil (.char c) rest))
    · exact Nat.zero_le _

/-- The marks of a text.  Behind a mark that cannot be finished nothing matters. -/
def list : List Symbol → List Mark
  | [] => [.ended .finished]
  | .cut reason :: _ => [.ended (.unreadable reason)]
  | .stray :: _ => [.broken .expectedValue .expectedValue]
  | .char c :: rest =>
    if isGap c then list rest
    else
      have _shorter : (beginning c rest).2.length < rest.length + 1 :=
        Nat.lt_succ_of_le (length_of_beginning c rest)
      (beginning c rest).1 :: list (beginning c rest).2
termination_by symbols => symbols.length

end Mark
end Json
end Polyquery
