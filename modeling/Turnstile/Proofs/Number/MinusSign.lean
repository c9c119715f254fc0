import Turnstile.Number.Numeral

/-! # Numerals with a minus sign

How a text goes on behind a minus sign when it writes a number.

* **`Text.trim_cons`** trims a text that does not start with a blank unit.
* **`FollowsMinus`** lists the ways to go on: a digit, a point and `Infinity`.
* **`followsMinus_of_number`** and **`startsWithDigit_of_integer?`** say that numbers and integers go
  on like that; for integers it is a digit always. -/

namespace Turnstile

namespace Text

variable {u : UInt16} {t : Text}

/-- Trimming at the end leaves the front of a text, with the first unit that is not blank. -/
theorem trimEnd_cons (hblank : isBlank u = false) (t : Text) :
    ∃ front, trimEnd (u :: t) = u :: front ∧ front <+: t := by
  have hsplit : trimEnd (u :: t) = u :: (t.reverse.dropWhile isBlank).reverse := by
    rw [trimEnd, List.reverse_cons, List.dropWhile_append]
    split
    · next hempty => simp [hblank, List.isEmpty_iff.mp hempty]
    · simp
  refine ⟨_, hsplit, ?_⟩
  have hsuffix : t.reverse.dropWhile isBlank <:+ t.reverse := List.dropWhile_suffix _
  simpa using List.reverse_prefix.mpr hsuffix

/-- **A text that does not start with a blank unit keeps its first unit** when it is trimmed. -/
theorem trim_cons (hblank : isBlank u = false) (t : Text) :
    ∃ front, trim (u :: t) = u :: front ∧ front <+: t := by
  have hdrop : (u :: t).dropWhile isBlank = u :: t := by simp [hblank]
  rw [trim, hdrop]
  exact trimEnd_cons hblank t

/-- A text starts with a digit. -/
def StartsWithDigit (t : Text) : Prop := ∃ u rest, t = u :: rest ∧ isDigit u = true

theorem StartsWithDigit.extend {front : Text} (h : StartsWithDigit front) (hfront : front <+: t) :
    StartsWithDigit t := by
  obtain ⟨u, rest, rfl, hdigit⟩ := h
  obtain ⟨more, rfl⟩ := hfront
  exact ⟨u, rest ++ more, rfl, hdigit⟩

/-- A digit to the base of ten is a decimal digit. -/
theorem isDigit_of_digitValue? {d : Nat} (h : digitValue? 10 u = some d) : isDigit u = true := by
  cases hdigit : isDigit u with
  | true => rfl
  | false =>
    -- A letter is worth ten at least, and any other unit too much for every base.
    have hvalue : ¬ (if 0x61 ≤ u && u ≤ 0x7A then u.toNat - 0x61 + 10
        else if 0x41 ≤ u && u ≤ 0x5A then u.toNat - 0x41 + 10 else 99) < 10 := by
      split
      · omega
      · split <;> omega
    simp only [digitValue?, hdigit, Bool.false_eq_true, if_false, if_neg hvalue] at h
    exact absurd h nofun

/-- A decimal number starts with a digit. -/
theorem startsWithDigit_of_nat? {n : Nat} (h : nat? 10 t = some n) : StartsWithDigit t := by
  cases t with
  | nil => simp [nat?] at h
  | cons u rest =>
    refine ⟨u, rest, rfl, ?_⟩
    rw [nat?, if_neg (by simp), natFrom?] at h
    split at h
    · simp at h
    · next hvalue => exact isDigit_of_digitValue? hvalue

end Text

namespace Numeral

open Text

/-- **What follows the minus sign of a number**: a digit, a point or `Infinity`. -/
inductive FollowsMinus (t : Text) : Prop where
  | digit (starts : t.StartsWithDigit)
  | point (starts : "." <+: t)
  | infinity (starts : "Infinity" <+: t)

theorem FollowsMinus.extend {front t : Text} (h : FollowsMinus front) (hfront : front <+: t) :
    FollowsMinus t := by
  cases h with
  | digit starts => exact .digit (starts.extend hfront)
  | point starts => exact .point (starts.trans hfront)
  | infinity starts => exact .infinity (starts.trans hfront)

/-- No prefix of a base starts with a minus sign. -/
theorem prefixed?_minus (t : Text) : prefixed? (unit '-' :: t) = none := by
  cases t with
  | nil => rfl
  | cons u t => rw [prefixed?, if_neg (by decide)]

theorem sign_minus (t : Text) : sign (unit '-' :: t) = (true, t) := by
  rw [sign, if_pos rfl]

/-- A decimal numeral starts with a digit or a point. -/
theorem followsMinus_of_decimal? {negative : Bool} {t : Text} {x : Number}
    (h : decimal? negative t = some x) : FollowsMinus t := by
  cases t with
  | nil => simp [decimal?, digits, fraction] at h
  | cons u rest =>
    by_cases hdigit : isDigit u = true
    · exact .digit ⟨u, rest, rfl, hdigit⟩
    · have hdigits : digits (u :: rest) = ([], u :: rest) := by simp [digits, hdigit]
      by_cases hpoint : u = unit '.'
      · subst hpoint
        exact .point ⟨rest, rfl⟩
      · -- Without a digit and without a point there is nothing to read.
        simp [decimal?, hdigits, fraction, hpoint] at h

/-- **A number goes on behind its minus sign** with a digit, a point or `Infinity`. -/
theorem followsMinus_of_number {t : Text} (h : number (unit '-' :: t) ≠ .nan) : FollowsMinus t := by
  obtain ⟨front, htrim, hfront⟩ := trim_cons (by decide : isBlank (unit '-') = false) t
  refine FollowsMinus.extend ?_ hfront
  simp only [number, htrim, List.isEmpty_cons, Bool.false_eq_true, if_false, prefixed?_minus,
    signed?, sign_minus] at h
  split at h
  · next hinfinity =>
    rw [hinfinity]
    exact .infinity List.prefix_rfl
  · cases hdecimal : decimal? true front with
    | none => simp [hdecimal] at h
    | some x => exact followsMinus_of_decimal? hdecimal

/-- **An integer goes on behind its minus sign** with a digit. -/
theorem startsWithDigit_of_integer? {t : Text} {i : Int} (h : integer? (unit '-' :: t) = some i) :
    t.StartsWithDigit := by
  obtain ⟨front, htrim, hfront⟩ := trim_cons (by decide : isBlank (unit '-') = false) t
  simp only [integer?, htrim, List.isEmpty_cons, Bool.false_eq_true, if_false, prefixed?_minus,
    sign_minus] at h
  cases hnat : nat? 10 front with
  | none => simp [hnat] at h
  | some n => exact (startsWithDigit_of_nat? hnat).extend hfront

end Numeral

end Turnstile
