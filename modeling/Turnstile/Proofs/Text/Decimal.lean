import Mathlib.Algebra.Order.Ring.Nat
import Turnstile.Text

/-! # Decimal digits

The digits that a natural number is written with, and the number that they are read back as.

* **`Text.ofNat_digit`** adds a digit at the end; every other fact about the digits of a number follows
  from it and from the numbers of one digit.
* **`Text.ofString_toString`** and **`Text.ofString_toString_int`** say that these are the digits that
  numbers are written with everywhere, and **`Text.nat?_ofNat`** that they are read back.
* **`Text.ofNat_mul_pow`** puts the zeros of a power of ten behind the digits. -/

namespace Turnstile.Text

variable {n k d : Nat} {u : UInt16} {t : Text}

/-! ## One digit more -/

/-- A number below ten is one digit, -/
theorem ofNat_of_lt (h : n < 10) : ofNat n = [digit n] := by
  rw [ofNat, if_pos h]

/-- and a digit behind a number that is not zero is one digit more. -/
theorem ofNat_digit (hn : 0 < n) (hd : d < 10) : ofNat (10 * n + d) = ofNat n ++ [digit d] := by
  have hquotient : (10 * n + d) / 10 = n := by omega
  have hrest : (10 * n + d) % 10 = d := by omega
  rw [ofNat, if_neg (by omega), hquotient, hrest]

/-- **Digit by digit**: what holds of one digit and of one digit more holds of every number. -/
theorem digits_induction {P : Nat → Prop} (one : ∀ d, d < 10 → P d)
    (more : ∀ n d, 0 < n → d < 10 → P n → P (10 * n + d)) (n : Nat) : P n :=
  Nat.base_induction 10 (by decide) one fun n d hd hn ih => more n d hn hd ih

theorem isDigit_digit (h : d < 10) : isDigit (digit d) = true := by
  have hall : ∀ d < 10, isDigit (digit d) = true := by decide
  exact hall d h

theorem digitValue?_digit (h : d < 10) : digitValue? 10 (digit d) = some d := by
  have hall : ∀ d < 10, digitValue? 10 (digit d) = some d := by decide
  exact hall d h

/-- The digits of a number are digits, -/
theorem isDigit_of_mem_ofNat (n : Nat) (h : u ∈ ofNat n) : isDigit u = true := by
  induction n using digits_induction with
  | one d hd =>
    rw [ofNat_of_lt hd, List.mem_singleton] at h
    rw [h, isDigit_digit hd]
  | more n d hn hd ih =>
    rw [ofNat_digit hn hd, List.mem_append, List.mem_singleton] at h
    rcases h with h | rfl
    · exact ih h
    · exact isDigit_digit hd

/-- and there is one at least. -/
theorem ofNat_ne_nil (n : Nat) : ofNat n ≠ [] := by
  induction n using digits_induction with
  | one d hd =>
    rw [ofNat_of_lt hd]
    exact List.cons_ne_nil _ _
  | more n d hn hd ih =>
    rw [ofNat_digit hn hd]
    exact List.append_ne_nil_of_left_ne_nil ih _

/-- The first unit of a number is a digit. -/
theorem ofNat_eq_cons (n : Nat) : ∃ u rest, ofNat n = u :: rest ∧ isDigit u = true := by
  obtain ⟨u, rest, hsplit⟩ := List.exists_cons_of_ne_nil (ofNat_ne_nil n)
  refine ⟨u, rest, hsplit, isDigit_of_mem_ofNat n ?_⟩
  rw [hsplit]
  exact List.mem_cons_self

/-! ## Reading digits back -/

theorem natFrom?_append {base soFar : Nat} (h : natFrom? base soFar t = some n) (rest : Text) :
    natFrom? base soFar (t ++ rest) = natFrom? base n rest := by
  induction t generalizing soFar with
  | nil =>
    rw [List.nil_append, ← Option.some.inj h]
  | cons u t ih =>
    rw [natFrom?] at h
    rw [List.cons_append, natFrom?]
    cases hvalue : digitValue? base u with
    | none =>
      rw [hvalue] at h
      exact absurd h nofun
    | some d =>
      rw [hvalue] at h
      exact ih h

theorem natFrom?_digit (hd : d < 10) (soFar : Nat) :
    natFrom? 10 soFar [digit d] = some (soFar * 10 + d) := by
  simp only [natFrom?, digitValue?_digit hd]

theorem natFrom?_ofNat (n : Nat) : natFrom? 10 0 (ofNat n) = some n := by
  induction n using digits_induction with
  | one d hd => rw [ofNat_of_lt hd, natFrom?_digit hd, Nat.zero_mul, Nat.zero_add]
  | more n d hn hd ih =>
    rw [ofNat_digit hn hd, natFrom?_append ih, natFrom?_digit hd, Nat.mul_comm]

/-- **The digits of a number are read as the number.** -/
theorem nat?_ofNat (n : Nat) : nat? 10 (ofNat n) = some n := by
  have hsome : ¬ (ofNat n).isEmpty = true := by
    rw [List.isEmpty_iff]
    exact ofNat_ne_nil n
  rw [nat?, if_neg hsome, natFrom?_ofNat]

/-! ## Zeros behind the digits -/

/-- **A power of ten adds that many zeros.** -/
theorem ofNat_mul_pow (hn : 0 < n) (k : Nat) :
    ofNat (n * 10 ^ k) = ofNat n ++ List.replicate k (unit '0') := by
  induction k with
  | zero => rw [Nat.pow_zero, Nat.mul_one, List.replicate_zero, List.append_nil]
  | succ k ih =>
    have hten : n * 10 ^ (k + 1) = 10 * (n * 10 ^ k) + 0 := by
      rw [Nat.pow_succ, ← Nat.mul_assoc, Nat.mul_comm _ 10, Nat.add_zero]
    have hpos : 0 < n * 10 ^ k := Nat.mul_pos hn (Nat.pow_pos (by decide))
    rw [hten, ofNat_digit hpos (by decide), ih, List.append_assoc, List.replicate_succ']
    rfl

/-- A number below a power of ten has no more digits than that power has zeros. -/
theorem length_ofNat_le (hk : 0 < k) (h : n < 10 ^ k) : (ofNat n).length ≤ k := by
  induction n using digits_induction generalizing k with
  | one d hd =>
    rw [ofNat_of_lt hd]
    exact hk
  | more n d hn hd ih =>
    -- There are two digits at least, so one power of ten is left for the digits in front.
    match k with
    | 1 => omega
    | k + 2 =>
      rw [Nat.pow_succ] at h
      have hfront : (ofNat n).length ≤ k + 1 := ih (Nat.succ_pos k) (by omega)
      rw [ofNat_digit hn hd, List.length_append, List.length_singleton]
      omega

/-! ## As they are written everywhere -/

/-- A digit is the unit of its character, -/
theorem unitsOf_digitChar (h : d < 10) : unitsOf d.digitChar = [digit d] := by
  have hall : ∀ d < 10, unitsOf (Nat.digitChar d) = [digit d] := by decide
  exact hall d h

theorem ofChars_append (cs ds : List Char) : ofChars (cs ++ ds) = ofChars cs ++ ofChars ds :=
  List.flatMap_append

theorem ofString_empty : ofString "" = [] := rfl

theorem ofString_append (s t : String) : ofString (s ++ t) = ofString s ++ ofString t := by
  rw [ofString, String.toList_append, ofChars_append, ofString, ofString]

/-- Strings with a separator between them are texts with one between them. -/
theorem ofString_intercalate (separator : String) (parts : List String) :
    ofString (separator.intercalate parts) = join separator (parts.map ofString) := by
  match parts with
  | [] => rw [String.intercalate_nil, List.map_nil, join, List.intercalate_nil, ofString_empty]
  | [part] => rw [String.intercalate_singleton, List.map_singleton, join, List.intercalate_singleton]
  | first :: second :: rest =>
    have ih := ofString_intercalate separator (second :: rest)
    rw [List.map_cons, join] at ih
    rw [String.intercalate_cons_cons, ofString_append, ofString_append, ih, List.map_cons,
      List.map_cons, join, List.intercalate_cons_cons]

theorem ofChars_toDigits (n : Nat) : ofChars (Nat.toDigits 10 n) = ofNat n := by
  induction n using digits_induction with
  | one d hd =>
    rw [Nat.toDigits_of_lt_base hd, ofNat_of_lt hd, ofChars, List.flatMap_singleton,
      unitsOf_digitChar hd]
  | more n d hn hd ih =>
    rw [← Nat.toDigits_append_toDigits (by decide) hn hd, ofChars_append, ih,
      Nat.toDigits_of_lt_base hd, ofNat_digit hn hd, ofChars, List.flatMap_singleton,
      unitsOf_digitChar hd]

/-- and **a natural number is the text of its digits**. -/
theorem ofString_toString (n : Nat) : ofString (ToString.toString n) = ofNat n := by
  rw [ofString, Nat.toString_eq_repr, Nat.toList_repr, ofChars_toDigits]

/-- **An integer** has a minus sign in front of its digits when it is below zero. -/
theorem ofString_toString_int (i : Int) : ofString (ToString.toString i) = ofInt i := by
  rw [Int.toString_eq_repr, Int.repr_eq_if, ofInt]
  by_cases hneg : i < 0
  · have habs : (-i).toNat = i.natAbs := by omega
    rw [if_neg (by omega), if_pos hneg, habs, ofString_append, ← Nat.toString_eq_repr,
      ofString_toString]
    rfl
  · have habs : i.toNat = i.natAbs := by omega
    rw [if_pos (by omega), if_neg hneg, habs, ← Nat.toString_eq_repr, ofString_toString]

end Turnstile.Text
