import Turnstile.Proofs.Number.ReadBack
import Turnstile.Proofs.Number.WholeText

/-! # Numbers that are integers

The numbers that are integers of at most `2 ^ 53` in magnitude, negative zero apart: each of them is
written with its decimal digits and read back from them.

* **`Number.IsIntegral`** says which numbers these are; **`Number.isIntegral_iff`** gives them by their
  integers.
* **`Number.toText_ofInt`** writes them. -/

namespace Turnstile.Number

variable {i : Int} {x : Number}

/-- **An integer of at most `2 ^ 53` in magnitude**, other than negative zero. -/
def IsIntegral (x : Number) : Prop := ∃ i, x.toInt? = some i ∧ i.natAbs ≤ 2 ^ 53 ∧ x ≠ zero true

/-- **These numbers** are the numbers of the integers up to `2 ^ 53` in magnitude. -/
theorem isIntegral_iff : x.IsIntegral ↔ ∃ i : Int, i.natAbs ≤ 2 ^ 53 ∧ x = ofInt i := by
  constructor
  · rintro ⟨i, hinteger, hi, hx⟩
    exact ⟨i, hi, eq_ofInt_of_toInt? hinteger hi hx⟩
  · rintro ⟨i, hi, hx⟩
    rw [hx]
    refine ⟨i, toInt?_ofInt hi, hi, ?_⟩
    intro hzero
    rw [ofInt_eq hi, zero_eq_finite] at hzero
    rw [finite.injEq, decide_eq_true_iff] at hzero
    obtain ⟨hsign, hquanta⟩ := hzero
    have hne : i.natAbs * one ≠ 0 := Nat.mul_ne_zero (by omega) (Nat.ne_of_gt one_pos)
    exact hne hquanta

/-- **An integer up to `2 ^ 53` in magnitude is written with its decimal digits.** -/
theorem toText_ofInt (h : i.natAbs ≤ 2 ^ 53) : (ofInt i).toText = Text.ofInt i := by
  by_cases hneg : i < 0
  · -- The digits are those of the number without its sign.
    have hdigits : (ofNat i.natAbs).toText = Text.ofNat i.natAbs := toText_ofNat h
    have hquanta : i.natAbs * one ≠ 0 := Nat.mul_ne_zero (by omega) (Nat.ne_of_gt one_pos)
    rw [ofNat_eq h, toText, if_neg hquanta, if_neg Bool.false_ne_true] at hdigits
    rw [ofInt_eq h, toText, if_neg hquanta, if_pos (decide_eq_true hneg), hdigits, Text.ofInt,
      if_pos hneg]
  · obtain ⟨n, rfl⟩ := Int.eq_ofNat_of_zero_le (Int.not_lt.mp hneg)
    rw [ofInt_natCast, Text.ofInt_natCast]
    exact toText_ofNat h

end Turnstile.Number
