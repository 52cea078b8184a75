import ChangeGate.Text.Digit
import Mathlib.Data.List.Induction
import Mathlib.Data.Nat.Digits.Defs

/-! # How long numerals are

A numeral of any script writes a number that is bounded by its length (`decimalValue_lt`).  So the
numbers that are too long to be printed, which are those from `10 ^ longestNumeral` on
(`isLong_iff`), are not read from numerals that are short enough (`isLong_decimalValue`). -/

namespace ChangeGate.Text

theorem digitValue_lt (c : Char) : (digitValue? c).getD 0 < 10 := by
  rw [digitValue?]
  cases h : zeroDigits.find? fun z => z ≤ c.toNat && c.toNat < z + 10 with
  | none => exact Nat.zero_lt_succ 9
  | some z =>
      have hz := List.find?_some h
      rw [Bool.and_eq_true, decide_eq_true_eq, decide_eq_true_eq] at hz
      show c.toNat - z < 10
      omega

theorem decimalValue_lt (cs : List Char) : decimalValue cs < 10 ^ cs.length := by
  induction cs using List.reverseRecOn with
  | nil => decide
  | append_singleton cs c ih =>
      have hc := digitValue_lt c
      rw [decimalValue] at ih
      rw [decimalValue, List.foldl_append, List.foldl_cons, List.foldl_nil, List.length_append,
        List.length_singleton, Nat.pow_succ]
      omega

theorem isLong_eq_false_iff {n : Int} : isLong n = false ↔ n.natAbs < 10 ^ longestNumeral := by
  rw [isLong, decide_eq_false_iff_not, Nat.not_lt]
  exact Nat.length_toDigits_le_iff (by decide) (by decide)

theorem isLong_iff {n : Int} : isLong n = true ↔ 10 ^ longestNumeral ≤ n.natAbs := by
  rw [← Bool.not_eq_false, isLong_eq_false_iff, Nat.not_lt]

theorem isLong_decimalValue {cs : List Char} (h : cs.length ≤ longestNumeral) :
    isLong (decimalValue cs) = false :=
  isLong_eq_false_iff.mpr <|
    (decimalValue_lt cs).trans_le (Nat.pow_le_pow_right (by decide) h)

end ChangeGate.Text
