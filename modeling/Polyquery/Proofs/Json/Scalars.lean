import Polyquery.Json.Basic
import Polyquery.Json.Mark
import Polyquery.Proofs.Text.Runs

/-!
# Written strings and numbers

What the reader makes of a string in quotes and of a number in decimal digits.  A string ends with its closing
quote, whatever follows.  A number ends where no character of a numeral follows.
-/

namespace Polyquery

open Text

namespace Json

namespace Symbol

@[simp] theorem ofText_nil : ofText [] = [] := rfl

@[simp] theorem ofText_cons (c : Char) (text : Text) :
    ofText (c :: text) = .char c :: ofText text := rfl

end Symbol

open Symbol

namespace Quotation

/-!
# Strings
-/

theorem hexCode?_fourDigits (c : Char) (h : c.toNat < 32) :
    hexCode? (.char (Nat.digitChar (c.toNat / 4096 % 16))) (.char (Nat.digitChar (c.toNat / 256 % 16)))
      (.char (Nat.digitChar (c.toNat / 16 % 16))) (.char (Nat.digitChar (c.toNat % 16))) =
        some c.toNat := by
  have hall : ∀ n < 32, hexCode? (.char (Nat.digitChar (n / 4096 % 16)))
      (.char (Nat.digitChar (n / 256 % 16))) (.char (Nat.digitChar (n / 16 % 16)))
      (.char (Nat.digitChar (n % 16))) = some n := by
    decide
  exact hall c.toNat h

/-- A written character is one unit, which gives the character again. -/
theorem exists_unit (c : Char) :
    ∃ unit : StringUnit,
      (∀ rest, units (ofText (escapeChar c ++ rest)) =
        (unit :: (units (ofText rest)).1, (units (ofText rest)).2)) ∧
      ∀ found, join none (unit :: found) = (join none found).map (c :: ·) := by
  have hcode : ∀ n : Nat, c.toNat = n → c = Char.ofNat n := by
    intro n hn
    rw [← hn, Char.ofNat_toNat]
  unfold escapeChar
  split_ifs with hquote hslash h8 h9 h10 h12 h13 hcontrol
  · exact ⟨.char c, fun rest => by simp [units, simpleEscape?, hquote], fun _ => rfl⟩
  · exact ⟨.char c, fun rest => by simp [units, simpleEscape?, hslash], fun _ => rfl⟩
  · exact ⟨.char c, fun rest => by simp [units, simpleEscape?, hcode 8 h8], fun _ => rfl⟩
  · exact ⟨.char c, fun rest => by simp [units, simpleEscape?, hcode 9 h9], fun _ => rfl⟩
  · exact ⟨.char c, fun rest => by simp [units, simpleEscape?, hcode 10 h10], fun _ => rfl⟩
  · exact ⟨.char c, fun rest => by simp [units, simpleEscape?, hcode 12 h12], fun _ => rfl⟩
  · exact ⟨.char c, fun rest => by simp [units, simpleEscape?, hcode 13 h13], fun _ => rfl⟩
  · refine ⟨.code c.toNat, fun rest => ?_, fun found => ?_⟩
    · simp only [fourDigits, List.cons_append, List.nil_append, ofText_cons, units,
        hexCode?_fourDigits c hcontrol]
    · have htrailing : isTrailing c.toNat = false := by
        rw [isTrailing, Bool.and_eq_false_iff, decide_eq_false_iff_not]
        omega
      have hleading : isLeading c.toNat = false := by
        rw [isLeading, Bool.and_eq_false_iff, decide_eq_false_iff_not]
        omega
      rw [join.eq_def]
      simp only [htrailing, hleading, Bool.false_eq_true, if_false, Char.ofNat_toNat]
  · refine ⟨.char c, fun rest => ?_, fun _ => rfl⟩
    simp [units, hslash, hcontrol]

theorem exists_units (text rest : Text) :
    ∃ found, units (ofText (text.flatMap escapeChar ++ '"' :: rest)) = (found, .ok (ofText rest)) ∧
      join none found = .ok text := by
  induction text with
  | nil => exact ⟨[], rfl, rfl⟩
  | cons c text ih =>
      rcases ih with ⟨found, hunits, hjoin⟩
      rcases exists_unit c with ⟨unit, hunit, hchar⟩
      refine ⟨unit :: found, ?_, ?_⟩
      · rw [List.flatMap_cons, List.append_assoc, hunit, hunits]
      · rw [hchar, hjoin]
        rfl

end Quotation

namespace Numeral

/-!
# Numbers
-/

def ofNat (n : Nat) : Numeral :=
  { negative := false, whole := decimal n, fraction := none, exponent := none }

theorem value_decimal (n : Nat) : value (decimal n) = n := by
  have hfold : value (decimal n) = Nat.ofDigitChars 10 (Nat.toDigits 10 n) 0 := by
    rw [Nat.ofDigitChars_eq_foldl]
    simp only [value, digitValue, decimal, Nat.mul_comm]
  rw [hfold, Nat.ofDigitChars_ten_toDigits]

theorem quantity_ofNat {n : Nat} (h : n < Nat.pow 2 64) : (ofNat n).quantity = .ok (.natural n) := by
  simp only [quantity, ofNat, value_decimal, Option.isSome_none, Bool.or_self, Bool.false_eq_true,
    if_false, if_pos h]

def isNumeralChar (c : Char) : Bool :=
  c.isDigit || c == '.' || c == 'e' || c == 'E'

theorem isDigit_of_mem_decimal {n : Nat} {c : Char} (h : c ∈ decimal n) : c.isDigit = true :=
  Nat.isDigit_of_mem_toDigits (by decide) (by decide) h

theorem decimal_ne_nil (n : Nat) : decimal n ≠ [] :=
  Nat.toDigits_ne_nil

theorem decimal_ne_zero_cons (n : Nat) (c : Char) (rest : Text) : decimal n ≠ '0' :: c :: rest := by
  induction n using Nat.strongRecOn generalizing c rest with
  | ind n ih =>
      by_cases hn : n < 10
      · rw [decimal, Nat.toDigits_of_lt_base hn]
        simp
      · have hsplit : decimal n = decimal (n / 10) ++ [Nat.digitChar (n % 10)] :=
          Nat.toDigits_of_base_le (by decide) (by omega)
        intro h
        rw [hsplit] at h
        cases hfront : decimal (n / 10) with
        | nil => exact decimal_ne_nil _ hfront
        | cons d front =>
            rw [hfront, List.cons_append, List.cons.injEq] at h
            rcases h with ⟨rfl, hrest⟩
            cases front with
            | nil =>
                -- the front is the single digit zero, so the number has no second digit
                have hzero : n / 10 = 0 := by
                  rw [← value_decimal (n / 10), hfront]
                  rfl
                omega
            | cons e front => exact ih (n / 10) (by omega) e front hfront

end Numeral

namespace Mark

open Numeral

theorem digits_ofText (text : Text) : digits (ofText text) = text.takeWhile Char.isDigit := by
  induction text with
  | nil => rfl
  | cons c text ih =>
      rw [digits] at ih
      by_cases hc : c.isDigit = true
      · simp [digits, isDigit, digit?, hc, ih]
      · simp [digits, isDigit, digit?, hc]

theorem afterDigits_ofText (text : Text) :
    afterDigits (ofText text) = ofText (text.dropWhile Char.isDigit) := by
  induction text with
  | nil => rfl
  | cons c text ih =>
      rw [afterDigits] at ih
      by_cases hc : c.isDigit = true
      · simp [afterDigits, isDigit, digit?, hc, ih]
      · simp [afterDigits, isDigit, digit?, hc]

variable {n : Nat} {rest : Text}

theorem startsOutside_isDigit (h : StartsOutside isNumeralChar rest) :
    StartsOutside Char.isDigit rest := by
  intro c hc
  have hnumeral := h c hc
  simp only [isNumeralChar, Bool.or_eq_false_iff] at hnumeral
  exact hnumeral.left.left.left

theorem whole_decimal (h : StartsOutside isNumeralChar rest) :
    whole (ofText (decimal n ++ rest)) = .ok (decimal n, ofText rest) := by
  have hdigits : digits (ofText (decimal n ++ rest)) = decimal n := by
    rw [digits_ofText]
    exact takeWhile_append_run (fun _ => isDigit_of_mem_decimal) (startsOutside_isDigit h)
  have hafter : afterDigits (ofText (decimal n ++ rest)) = ofText rest := by
    rw [afterDigits_ofText,
      dropWhile_append_run (fun _ => isDigit_of_mem_decimal) (startsOutside_isDigit h)]
  rw [whole, hdigits, hafter]
  split
  · exact absurd ‹_› (decimal_ne_nil n)
  · exact absurd ‹_› (decimal_ne_zero_cons n _ _)
  · rfl

theorem fraction_of_startsOutside (h : StartsOutside isNumeralChar rest) :
    fraction (ofText rest) = .ok (none, ofText rest) := by
  cases rest with
  | nil => rfl
  | cons c rest =>
      have hc := startsOutside_cons.mp h
      have hdot : c ≠ '.' := by
        rintro rfl
        exact absurd hc (by decide)
      simp [fraction, hdot]

theorem exponent_of_startsOutside (h : StartsOutside isNumeralChar rest) :
    exponent (ofText rest) = .ok (none, ofText rest) := by
  cases rest with
  | nil => rfl
  | cons c rest =>
      have hc := startsOutside_cons.mp h
      have hpower : ¬(c = 'e' ∨ c = 'E') := by
        rintro (rfl | rfl)
        · exact absurd hc (by decide)
        · exact absurd hc (by decide)
      simp only [ofText_cons, exponent, if_neg hpower]

theorem number_decimal (h : StartsOutside isNumeralChar rest) :
    number false (ofText (decimal n ++ rest)) =
      (.scalar (.number (.ofNat n)), ofText rest) := by
  have hnumeral : numeral false (ofText (decimal n ++ rest)) = .ok (.ofNat n, ofText rest) := by
    simp only [numeral, whole_decimal h, fraction_of_startsOutside h, exponent_of_startsOutside h,
      bind, Except.bind]
    cases rest with
    | nil => rfl
    | cons c rest => rfl
  rw [number, hnumeral]

theorem beginning_digit {c : Char} (h : c.isDigit = true) (rest : List Symbol) :
    beginning c rest = number false (.char c :: rest) := by
  unfold beginning
  split
  case h_12 => rw [if_pos h]
  all_goals exact absurd h (by decide)

theorem beginning_quote (text rest : Text) :
    beginning '"' (ofText (text.flatMap escapeChar ++ '"' :: rest)) =
      (.scalar (.string (.ok text)), ofText rest) := by
  rcases Quotation.exists_units text rest with ⟨found, hunits, hjoin⟩
  change quotation _ = _
  rw [quotation, hunits]
  simp only [hjoin]

end Mark
end Json
end Polyquery
