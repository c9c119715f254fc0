import Turnstile.Proofs.Number.Whole

/-! # Counting up by one

Up to `2 ^ 53` counting up by one reaches every whole number. There it ends: `2 ^ 53 + 1` lies halfway
between two numbers, and the even one of them is `2 ^ 53`. So a counter that starts at zero is at
`min m (2 ^ 53)` after `m` turns, whatever it is counted for.

* **`Number.add_one_counter`** is the step of such a counter.
* **`Number.lt_of_toInt?`** and **`Number.le_of_toInt?`** compare a counter with a whole number of
  any size.
* **`Number.toInt?_ofNat_of_isRepresentable`** is the integer of a whole number of any size that is on
  the grid.
* **`Number.lt_eq_false_of_le`** and **`Number.le_of_lt_eq_false`** pass between the two orders. -/

namespace Turnstile.Number

variable {n d : Nat} {i : Int} {x : Number}

/-! ## Halves -/

/-- A half goes to the even neighbour. -/
theorem roundDiv_of_half (hd : 0 < d) (q : Nat) : roundDiv (q * (2 * d) + d) (2 * d) = q + q % 2 := by
  have hrest : (q * (2 * d) + d) % (2 * d) = d := by
    rw [Nat.mul_add_mod_self_right, Nat.mod_eq_of_lt (by omega)]
  have hquotient : (q * (2 * d) + d) / (2 * d) = q := by
    rw [Nat.mul_comm, Nat.mul_add_div (by omega), Nat.div_eq_of_lt (by omega), Nat.add_zero]
  rw [roundDiv, hrest, hquotient, if_neg (Nat.lt_irrefl _), if_neg (Nat.lt_irrefl _)]

/-- The grid between `2 ^ 53` and `2 ^ 54` holds every second whole number. -/
theorem spacing_above : spacing ((2 ^ 53 + 1) * one) = 2 * one := by
  have hleading : (2 ^ 53 + 1).log2 = 53 := by decide
  rw [spacing, one_eq, log2_mul_two_pow (by decide), hleading, Nat.pow_eq]
  have hplaces : 53 + places - 52 = places + 1 := by omega
  rw [hplaces, Nat.pow_succ, Nat.mul_comm]

/-- **The whole number behind `2 ^ 53` is rounded back to it.** -/
theorem nearest_above : nearest ((2 ^ 53 + 1) * one) 1 = 2 ^ 53 * one := by
  -- It is `2 ^ 52` steps of the grid and a half, and `2 ^ 52` is even.
  have hhalf : (2 ^ 53 + 1) * one = 2 ^ 52 * (2 * one) + one := by
    rw [Nat.add_mul, Nat.one_mul, ← Nat.mul_assoc, ← Nat.pow_succ]
  have heven : 2 ^ 52 + 2 ^ 52 % 2 = 2 ^ 52 := by decide
  rw [nearest, Nat.div_one, spacing_above, Nat.one_mul, hhalf, roundDiv_of_half one_pos, heven,
    Nat.mul_right_comm, ← Nat.pow_succ']

/-! ## The counter -/

/-- **Counting up by one ends at `2 ^ 53`.** -/
theorem add_one_last : (ofNat (2 ^ 53)).add 1 = ofNat (2 ^ 53) := by
  have hone : (1 : Number) = ofNat 1 := rfl
  have hlast : IsRepresentable (2 ^ 53 * one) := isRepresentable_whole (Nat.le_refl _)
  have hsum : signed false (2 ^ 53 * one) + signed false (1 * one)
      = (((2 ^ 53 + 1) * one : Nat) : Int) := by
    rw [Nat.add_mul (2 ^ 53) 1 one]
    rfl
  have hpos : 0 < (2 ^ 53 + 1) * one := Nat.mul_pos (by decide) one_pos
  have hne : (((2 ^ 53 + 1) * one : Nat) : Int) ≠ 0 := Int.natCast_ne_zero.mpr (Nat.ne_of_gt hpos)
  have hsign : ¬ (((2 ^ 53 + 1) * one : Nat) : Int) < 0 := Int.not_lt.mpr (Int.natCast_nonneg _)
  rw [hone, ofNat_eq (Nat.le_refl _), ofNat_eq (by omega : 1 ≤ 2 ^ 53)]
  simp only [add, hsum]
  rw [if_neg hne, Int.natAbs_natCast, nearest_above, decide_eq_false hsign,
    ofQuanta_of_isRepresentable false hlast]

/-- **The step of a counter**: after `m` turns it is at `m`, as far as numbers count. -/
theorem add_one_counter (m : Nat) :
    (ofNat (min m (2 ^ 53))).add 1 = ofNat (min (m + 1) (2 ^ 53)) := by
  by_cases hm : m < 2 ^ 53
  · rw [Nat.min_eq_left hm.le, Nat.min_eq_left (Nat.succ_le_of_lt hm), add_one_ofNat hm]
  · rw [Nat.min_eq_right (by omega), Nat.min_eq_right (by omega), add_one_last]

/-! ## Whole numbers of any size -/

/-- The place of an integer on the line. -/
theorem place?_of_toInt? (h : x.toInt? = some i) : x.place? = some (i * one) := by
  cases x with
  | nan => cases h
  | infinity negative => cases h
  | finite negative quanta representable =>
    rw [toInt?] at h
    split at h
    · next hwhole =>
      have hquanta : quanta / one * one = quanta :=
        Nat.div_mul_cancel (Nat.dvd_of_mod_eq_zero hwhole)
      rw [← Option.some.inj h, place?, Option.some.injEq, signed, signed]
      split
      · rw [Int.neg_mul, ← Int.natCast_mul, hquanta]
      · rw [← Int.natCast_mul, hquanta]
    · cases h

/-- **Integers are compared as they are**, of any size. -/
theorem lt_of_toInt? {y : Number} {j : Int} (hx : x.toInt? = some i) (hy : y.toInt? = some j) :
    x.lt y = decide (i < j) := by
  have hpos : (0 : Int) < one := Int.natCast_pos.mpr one_pos
  rw [lt, place?_of_toInt? hx, place?_of_toInt? hy]
  simp only [decide_eq_decide]
  exact Int.mul_lt_mul_right hpos

/-- The same for the order that does not leave out equal numbers. -/
theorem le_of_toInt? {y : Number} {j : Int} (hx : x.toInt? = some i) (hy : y.toInt? = some j) :
    x.le y = decide (i ≤ j) := by
  have hpos : (0 : Int) < one := Int.natCast_pos.mpr one_pos
  rw [le, place?_of_toInt? hx, place?_of_toInt? hy]
  simp only [decide_eq_decide]
  exact Int.mul_le_mul_right hpos

/-- An integer has no fraction to drop. -/
theorem truncate_of_toInt? (h : x.toInt? = some i) : x.truncate = i := by
  cases x with
  | nan => cases h
  | infinity negative => cases h
  | finite negative quanta representable =>
    rw [toInt?] at h
    split at h
    · exact Option.some.inj h
    · cases h

/-- The integer of a whole number that is on the grid. -/
theorem toInt?_ofNat_of_isRepresentable (h : IsRepresentable (n * one)) :
    (ofNat n).toInt? = some (n : Int) := by
  rw [ofNat, ofRatio, nearest_of_isRepresentable h, ofQuanta_of_isRepresentable false h, toInt?,
    if_pos (Nat.mul_mod_left _ _), Nat.mul_div_cancel _ one_pos]
  rfl

/-! ## Both directions of an order -/

/-- What is not above another number is not above it the other way round either. -/
theorem lt_eq_false_of_le {y : Number} (h : x.le y = true) : y.lt x = false := by
  rw [le] at h
  rw [lt]
  cases hx : x.place? with
  | none =>
    rw [hx] at h
    cases h
  | some a =>
    cases hy : y.place? with
    | none => rfl
    | some b =>
      rw [hx, hy] at h
      have hle : a ≤ b := of_decide_eq_true h
      exact decide_eq_false (Int.not_lt.mpr hle)

/-- Of a whole number and one that is a number, one is at most the other. -/
theorem le_of_lt_eq_false {y : Number} (hy : y.isNaN = false) (hx : x.toInt? = some i)
    (h : y.lt x = false) : x.le y = true := by
  have hplace : ∃ b, y.place? = some b := by
    cases y with
    | nan => exact absurd hy nofun
    | infinity negative => exact ⟨_, rfl⟩
    | finite negative quanta representable => exact ⟨_, rfl⟩
  obtain ⟨b, hb⟩ := hplace
  rw [lt, hb, place?_of_toInt? hx] at h
  rw [le, hb, place?_of_toInt? hx]
  exact decide_eq_true (Int.not_lt.mp (of_decide_eq_false h))

end Turnstile.Number
