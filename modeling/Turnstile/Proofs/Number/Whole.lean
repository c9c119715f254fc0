import Mathlib.Algebra.Order.Ring.Nat
import Turnstile.Number

/-! # Whole numbers that are held exactly

Every whole number up to `2 ^ 53` in magnitude is a number of its own, so reading one, comparing two
of them and counting up by one is exact there.

* **`Number.isRepresentable_whole`** says that such a magnitude is on the grid, and
  **`nearest_of_isRepresentable`** that rounding leaves the grid alone.
* **`Number.ofNat_eq`** and **`Number.ofInt_eq`** give the number outright; the lemmas below them say
  what its integer and its place are.
* **`Number.eq_ofInt_of_toInt?`** is the way back, from the integer that a number is. -/

namespace Turnstile.Number

variable {q n m k : Nat} {i : Int} {x : Number}

/-! ## The grid -/

/-- The places that the quantum lies below one. -/
def places : Nat := 1074

-- The powers are kept as they are written: their exponents are named before anything looks at them.
theorem one_eq : one = 2 ^ places := by
  unfold one
  generalize hplaces : 1074 = n
  have hn : places = n := hplaces
  rw [hn, Nat.pow_eq]

theorem one_pos : 0 < one := by
  rw [one_eq]
  exact Nat.two_pow_pos places

theorem tooLarge_eq : tooLarge = 2 ^ (places + 1024) := by
  unfold tooLarge
  generalize hplaces : 2098 = n
  have hn : places + 1024 = n := hplaces
  rw [hn, Nat.pow_eq]

theorem spacing_pos (q : Nat) : 0 < spacing q := Nat.two_pow_pos _

/-- A quotient without a remainder is not rounded. -/
theorem roundDiv_of_dvd {d : Nat} (hd : 0 < d) (h : d ∣ n) : roundDiv n d = n / d := by
  have hrest : n % d = 0 := Nat.mod_eq_zero_of_dvd h
  rw [roundDiv, hrest, if_pos (by omega)]

/-- **Rounding leaves the grid alone.** -/
theorem nearest_of_isRepresentable (h : IsRepresentable q) : nearest q 1 = q := by
  rw [nearest, Nat.div_one, Nat.one_mul, roundDiv_of_dvd (spacing_pos q) h.2]
  exact Nat.mul_div_cancel' h.2

theorem ofQuanta_of_isRepresentable (negative : Bool) (h : IsRepresentable q) :
    ofQuanta negative q = .finite negative q h := by
  rw [ofQuanta, dif_pos h]

theorem isNaN_ofQuanta (negative : Bool) (quanta : Nat) :
    (ofQuanta negative quanta).isNaN = false := by
  rw [ofQuanta]
  split <;> rfl

theorem isNaN_ofNat (n : Nat) : (ofNat n).isNaN = false := by
  rw [ofNat, ofRatio, isNaN_ofQuanta]

/-- The leading place of a number that is moved up by powers of two. -/
theorem log2_mul_two_pow (hn : n ≠ 0) (k : Nat) : (n * 2 ^ k).log2 = n.log2 + k := by
  have hne : n * 2 ^ k ≠ 0 := Nat.mul_ne_zero hn (Nat.ne_of_gt (Nat.two_pow_pos k))
  rw [Nat.log2_eq_iff hne]
  constructor
  · rw [Nat.pow_add]
    exact Nat.mul_le_mul_right _ (Nat.log2_self_le hn)
  · rw [Nat.add_right_comm, Nat.pow_add]
    exact Nat.mul_lt_mul_of_pos_right Nat.lt_log2_self (Nat.two_pow_pos k)

/-- **53 bits, moved up by powers of two, are on the grid** as long as they are not too large. -/
theorem isRepresentable_mul_two_pow (h : n ≤ 2 ^ 53) (hk : k < 971) :
    IsRepresentable (n * 2 ^ k * one) := by
  rw [IsRepresentable, tooLarge_eq, one_eq, Nat.mul_assoc, ← Nat.pow_add]
  constructor
  · calc n * 2 ^ (k + places) ≤ 2 ^ 53 * 2 ^ (k + places) := Nat.mul_le_mul_right _ h
      _ = 2 ^ (53 + (k + places)) := (Nat.pow_add 2 53 _).symm
      _ < 2 ^ (places + 1024) := Nat.pow_lt_pow_right Nat.one_lt_two (by omega)
  · by_cases hn : n = 0
    · rw [hn, Nat.zero_mul]
      exact Nat.dvd_zero _
    · rw [spacing, Nat.pow_eq, log2_mul_two_pow hn]
      by_cases hlast : n = 2 ^ 53
      · -- Only this number needs 54 bits, and its last one is zero.
        rewrite [hlast, Nat.log2_two_pow, ← Nat.pow_add]
        generalize places = p
        exact Nat.pow_dvd_pow 2 (Nat.sub_le _ _)
      · have hbits : n.log2 < 53 := (Nat.log2_lt hn).mpr (by omega)
        exact Nat.dvd_mul_left_of_dvd (Nat.pow_dvd_pow 2 (by omega)) n

/-- **A whole number up to `2 ^ 53` is on the grid.** -/
theorem isRepresentable_whole (h : n ≤ 2 ^ 53) : IsRepresentable (n * one) := by
  have hmoved : IsRepresentable (n * 2 ^ 0 * one) := isRepresentable_mul_two_pow h (by decide)
  rwa [Nat.pow_zero, Nat.mul_one] at hmoved

/-! ## The number of a whole number -/

/-- **A whole number up to `2 ^ 53`** is held as it is. -/
theorem ofNat_eq (h : n ≤ 2 ^ 53) :
    ofNat n = .finite false (n * one) (isRepresentable_whole h) := by
  rw [ofNat, ofRatio, nearest_of_isRepresentable (isRepresentable_whole h),
    ofQuanta_of_isRepresentable]

/-- **An integer up to `2 ^ 53` in magnitude** is held as it is. -/
theorem ofInt_eq (h : i.natAbs ≤ 2 ^ 53) :
    ofInt i = .finite (decide (i < 0)) (i.natAbs * one) (isRepresentable_whole h) := by
  rw [ofInt, ofRatio, nearest_of_isRepresentable (isRepresentable_whole h),
    ofQuanta_of_isRepresentable]

theorem ofInt_natCast (n : Nat) : ofInt n = ofNat n := by
  have hsign : ¬ (n : Int) < 0 := by omega
  rw [ofInt, ofNat, Int.natAbs_natCast, decide_eq_false hsign]

theorem signed_natAbs (i : Int) : signed (decide (i < 0)) i.natAbs = i := by
  rw [signed]
  by_cases hneg : i < 0
  · rw [decide_eq_true hneg, if_pos rfl]
    omega
  · rw [decide_eq_false hneg, if_neg Bool.false_ne_true]
    omega

theorem natAbs_signed (negative : Bool) (n : Nat) : (signed negative n).natAbs = n := by
  cases negative <;> simp [signed]

/-- The integer is found again. -/
theorem toInt?_ofInt (h : i.natAbs ≤ 2 ^ 53) : (ofInt i).toInt? = some i := by
  rw [ofInt_eq h, toInt?, if_pos (Nat.mul_mod_left _ _), Nat.mul_div_cancel _ one_pos,
    signed_natAbs]

theorem toInt?_ofNat (h : n ≤ 2 ^ 53) : (ofNat n).toInt? = some (n : Int) := by
  rw [← ofInt_natCast]
  exact toInt?_ofInt (by omega)

/-- The place of a whole number on the line. -/
theorem place?_ofNat (h : n ≤ 2 ^ 53) : (ofNat n).place? = some ((n * one : Nat) : Int) := by
  rw [ofNat_eq h]
  rfl

/-- **Whole numbers are compared as they are.** -/
theorem lt_ofNat (hm : m ≤ 2 ^ 53) (hn : n ≤ 2 ^ 53) : (ofNat m).lt (ofNat n) = decide (m < n) := by
  rw [lt, place?_ofNat hm, place?_ofNat hn]
  simp only [Int.ofNat_lt, decide_eq_decide]
  exact Nat.mul_lt_mul_right one_pos

theorem isRepresentable_zero : IsRepresentable 0 := by
  have hwhole : IsRepresentable (0 * one) := isRepresentable_whole (Nat.zero_le _)
  rwa [Nat.zero_mul] at hwhole

/-- Counting from zero, -/
theorem zero_eq : zero false = ofNat 0 := by
  rw [zero, ofQuanta_of_isRepresentable false isRepresentable_zero, ofNat_eq (Nat.zero_le _)]
  simp only [Nat.zero_mul]

/-- **counting up by one is exact** up to `2 ^ 53`. -/
theorem add_one_ofNat (h : n < 2 ^ 53) : (ofNat n).add 1 = ofNat (n + 1) := by
  have hone : (1 : Number) = ofNat 1 := rfl
  have hnext : n + 1 ≤ 2 ^ 53 := h
  have hsum : signed false (n * one) + signed false (1 * one) = (((n + 1) * one : Nat) : Int) := by
    rw [Nat.add_mul]
    rfl
  have hne : (((n + 1) * one : Nat) : Int) ≠ 0 :=
    Int.natCast_ne_zero.mpr (Nat.mul_ne_zero (Nat.succ_ne_zero n) (Nat.ne_of_gt one_pos))
  have hsign : ¬ (((n + 1) * one : Nat) : Int) < 0 := by omega
  rw [hone, ofNat_eq (Nat.le_of_lt h), ofNat_eq (by omega : 1 ≤ 2 ^ 53), ofNat_eq hnext]
  simp only [add, hsum]
  rw [if_neg hne, Int.natAbs_natCast, nearest_of_isRepresentable (isRepresentable_whole hnext),
    decide_eq_false hsign, ofQuanta_of_isRepresentable]

/-! ## The way back -/

theorem zero_eq_finite (negative : Bool) : zero negative = finite negative 0 isRepresentable_zero :=
  ofQuanta_of_isRepresentable negative isRepresentable_zero

/-- Both zeros are the integer zero. -/
theorem toInt?_zero (negative : Bool) : (zero negative).toInt? = some 0 := by
  rw [zero_eq_finite, toInt?, Nat.zero_mod, if_pos rfl, Nat.zero_div]
  cases negative <;> rfl

/-- **A number that is an integer** up to `2 ^ 53` in magnitude is the number of it, unless it is
negative zero. -/
theorem eq_ofInt_of_toInt? (h : x.toInt? = some i) (hi : i.natAbs ≤ 2 ^ 53) (hx : x ≠ zero true) :
    x = ofInt i := by
  cases x with
  | nan => cases h
  | infinity negative => cases h
  | finite negative quanta representable =>
    rw [toInt?] at h
    split at h
    · next hwhole =>
      have hvalue : signed negative (quanta / one) = i := Option.some.inj h
      have hquanta : i.natAbs * one = quanta := by
        rw [← hvalue, natAbs_signed, Nat.div_mul_cancel (Nat.dvd_of_mod_eq_zero hwhole)]
      -- The sign of the integer is the sign of the number, for only a zero could have another.
      have hsign : decide (i < 0) = negative := by
        generalize quanta / one = n at hvalue
        cases negative with
        | false => simp [← hvalue, signed]
        | true =>
          have hne : i ≠ 0 := by
            rintro rfl
            rw [Int.natAbs_zero, Nat.zero_mul] at hquanta
            subst hquanta
            exact hx (zero_eq_finite true).symm
          rw [signed, if_pos rfl] at hvalue
          rw [decide_eq_true_iff]
          omega
      rw [ofInt_eq hi]
      simp only [hsign, hquanta]
    · cases h

end Turnstile.Number
