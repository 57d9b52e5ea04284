import Mathlib.Data.List.Basic
import Mathlib.Data.UInt

/-!
# Decimal numerals as byte strings

`decimal` prints a natural number in ASCII digits, `ofDecimal` reads digits
back, and reading a printed number gives the number.
-/

namespace DaZeus.Library

/-- The ASCII digits `0` to `9`. -/
def isDigit (byte : UInt8) : Bool := 48 ≤ byte && byte ≤ 57

def digitByte (digit : Char) : UInt8 := digit.toNat.toUInt8

/-- The decimal numeral of a natural number, without leading zeros. -/
def decimal (number : Nat) : List UInt8 := (Nat.toDigits 10 number).map digitByte

/-- The value of a string of digits, the most significant first. -/
def ofDecimal (digits : List UInt8) : Nat :=
  digits.foldl (fun value digit => 10 * value + (digit.toNat - 48)) 0

theorem decimal_ne_nil (number : Nat) : decimal number ≠ [] := by
  simp [decimal, Nat.toDigits_ne_nil]

theorem toNat_digitByte {digit : Char} (isDigit : digit.isDigit) :
    (digitByte digit).toNat = digit.toNat := by
  have bound : digit.toNat ≤ 57 := by
    simp only [Char.isDigit, Bool.and_eq_true, decide_eq_true_eq] at isDigit
    exact isDigit.2
  simp only [digitByte, Nat.toUInt8, UInt8.toNat_ofNat']
  omega

theorem isDigit_digitByte {digit : Char} (digitChar : digit.isDigit) :
    isDigit (digitByte digit) := by
  have value := toNat_digitByte digitChar
  simp only [Char.isDigit, Bool.and_eq_true, decide_eq_true_eq] at digitChar
  have lower : 48 ≤ digit.toNat := digitChar.1
  have upper : digit.toNat ≤ 57 := digitChar.2
  simp only [isDigit, Bool.and_eq_true, decide_eq_true_eq, UInt8.le_iff_toNat_le, value]
  exact ⟨lower, upper⟩

/-- A numeral consists of digits only. -/
theorem isDigit_of_mem_decimal {number : Nat} {byte : UInt8}
    (membership : byte ∈ decimal number) : isDigit byte := by
  obtain ⟨digit, digitMem, rfl⟩ := List.mem_map.mp membership
  exact isDigit_digitByte (Nat.isDigit_of_mem_toDigits (by decide) (by decide) digitMem)

theorem foldl_digitByte (digits : List Char) (value : Nat)
    (allDigits : ∀ digit ∈ digits, digit.isDigit) :
    (digits.map digitByte).foldl (fun value digit => 10 * value + (digit.toNat - 48)) value =
      Nat.ofDigitChars 10 digits value := by
  induction digits generalizing value with
  | nil => simp
  | cons digit digits inductionHypothesis =>
      have first := toNat_digitByte (allDigits digit List.mem_cons_self)
      simp only [List.map_cons, List.foldl_cons, first, Nat.ofDigitChars_cons]
      exact inductionHypothesis _ fun other membership =>
        allDigits other (List.mem_cons_of_mem _ membership)

@[simp]
theorem ofDecimal_decimal (number : Nat) : ofDecimal (decimal number) = number := by
  unfold ofDecimal decimal
  rw [foldl_digitByte _ _ fun digit membership =>
    Nat.isDigit_of_mem_toDigits (by decide) (by decide) membership]
  exact Nat.ofDigitChars_ten_toDigits

theorem foldl_digits_le (digits : List UInt8) {value larger : Nat} (le : value ≤ larger) :
    digits.foldl (fun value digit => 10 * value + (digit.toNat - 48)) value ≤
      digits.foldl (fun value digit => 10 * value + (digit.toNat - 48)) larger := by
  induction digits generalizing value larger with
  | nil => exact le
  | cons digit digits inductionHypothesis =>
      rw [List.foldl_cons, List.foldl_cons]
      apply inductionHypothesis
      omega

/-- Digits in front of a numeral make no smaller number. -/
theorem ofDecimal_le_append (front digits : List UInt8) :
    ofDecimal digits ≤ ofDecimal (front ++ digits) := by
  unfold ofDecimal
  rw [List.foldl_append]
  exact foldl_digits_le digits (Nat.zero_le _)

end DaZeus.Library
