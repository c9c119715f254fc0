import Turnstile.Proofs.CommandLine.ReadValues
import Turnstile.Proofs.Number.MinusSign
import Turnstile.Proofs.Number.Whole
import Turnstile.Proofs.Text.Decimal

/-! # Integers read back from their digits

The decimal text of an integer is read as the number nearest to the integer, alone and in a list with
commas.

* **`Numeral.number_ofInt`** reads one integer, **`readNumbers_join`** a list of them.
* What the readers look at is settled before: **`Text.trim_ofInt`** for the blanks around a text,
  **`Numeral.prefixed?_of_digits`** for a prefix, **`Numeral.decimal?_of_nat?`** for the digits. -/

namespace Turnstile

namespace Text

variable {u : UInt16} {t : Text} {i : Int}

/-! ## The units of an integer -/

/-- A blank unit is no digit. -/
theorem isBlank_of_isDigit (h : isDigit u = true) : isBlank u = false := by
  have hall : blanks.all (fun u => !isDigit u) = true := by decide
  by_contra hblank
  rw [Bool.not_eq_false, isBlank, List.contains_iff_mem] at hblank
  have hnone := List.all_eq_true.mp hall u hblank
  rw [h] at hnone
  exact Bool.noConfusion hnone

/-- An integer is written with digits, and maybe a minus sign. -/
theorem mem_ofInt (h : u ∈ ofInt i) : u = unit '-' ∨ isDigit u = true := by
  rw [ofInt] at h
  split at h
  · rw [List.mem_cons] at h
    exact h.imp_right (isDigit_of_mem_ofNat _)
  · exact Or.inr (isDigit_of_mem_ofNat _ h)

theorem isBlank_of_mem_ofInt (h : u ∈ ofInt i) : isBlank u = false := by
  rcases mem_ofInt h with rfl | hdigit
  · decide
  · exact isBlank_of_isDigit hdigit

theorem comma_not_mem_ofInt (i : Int) : unit ',' ∉ ofInt i := by
  intro h
  rcases mem_ofInt h with hminus | hdigit
  · exact absurd hminus (by decide)
  · exact absurd hdigit (by decide)

theorem ofInt_ne_nil (i : Int) : ofInt i ≠ [] := by
  rw [ofInt]
  split
  · exact List.cons_ne_nil _ _
  · exact ofNat_ne_nil _

theorem ofInt_natCast (n : Nat) : ofInt n = ofNat n := by
  have hsign : ¬ (n : Int) < 0 := by omega
  rw [ofInt, if_neg hsign, Int.natAbs_natCast]

theorem isDigit_of_mem_natFrom? {soFar n : Nat} (h : natFrom? 10 soFar t = some n) (hu : u ∈ t) :
    isDigit u = true := by
  induction t generalizing soFar with
  | nil => exact absurd hu List.not_mem_nil
  | cons v t ih =>
    rw [natFrom?] at h
    split at h
    · cases h
    · next hvalue =>
      rcases List.mem_cons.mp hu with rfl | hrest
      · exact isDigit_of_digitValue? hvalue
      · exact ih h hrest

theorem natFrom?_of_nat? {base n : Nat} (h : nat? base t = some n) :
    t ≠ [] ∧ natFrom? base 0 t = some n := by
  rw [nat?] at h
  split at h
  · cases h
  · next hsome => exact ⟨fun hnil => hsome (List.isEmpty_iff.mpr hnil), h⟩

/-- What is read as a number to the base of ten has no unit but digits. -/
theorem isDigit_of_mem_nat? {n : Nat} (h : nat? 10 t = some n) (hu : u ∈ t) : isDigit u = true :=
  isDigit_of_mem_natFrom? (natFrom?_of_nat? h).2 hu

/-- A text without a blank unit is trimmed to itself. -/
theorem trim_of_forall_not_blank (h : ∀ u ∈ t, isBlank u = false) : trim t = t := by
  have hkeep : ∀ t : Text, (∀ u ∈ t, isBlank u = false) → t.dropWhile isBlank = t := by
    intro t h
    cases t with
    | nil => rfl
    | cons u t => rw [List.dropWhile_cons, h u List.mem_cons_self, if_neg Bool.false_ne_true]
  rw [trim, hkeep t h, trimEnd, hkeep t.reverse, List.reverse_reverse]
  intro u hu
  exact h u (List.mem_reverse.mp hu)

theorem trim_ofInt (i : Int) : trim (ofInt i) = ofInt i :=
  trim_of_forall_not_blank fun _ hu => isBlank_of_mem_ofInt hu

theorem isBlankText_ofInt (i : Int) : isBlankText (ofInt i) = false := by
  obtain ⟨u, rest, hsplit⟩ := List.exists_cons_of_ne_nil (ofInt_ne_nil i)
  have hu : u ∈ ofInt i := by
    rw [hsplit]
    exact List.mem_cons_self
  exact isBlankText_eq_false_iff.mpr ⟨u, hu, isBlank_of_mem_ofInt hu⟩

end Text

/-! ## One integer -/

namespace Numeral

open Text

variable {t : Text} {negative : Bool}

/-- Digits alone have no prefix that names a base. -/
theorem prefixed?_of_digits (h : ∀ u ∈ t, isDigit u = true) : prefixed? t = none := by
  have hletters : ("xXoObB" : Text).all (fun letter => !isDigit letter) = true := by decide
  match t with
  | [] => rfl
  | [_] => rfl
  | zero :: letter :: rest =>
    have hdigit : isDigit letter = true := h letter (List.mem_cons_of_mem _ List.mem_cons_self)
    have hne : ∀ other ∈ ("xXoObB" : Text), letter ≠ other := by
      rintro other hother rfl
      have hnone := List.all_eq_true.mp hletters letter hother
      rw [hdigit] at hnone
      exact Bool.noConfusion hnone
    rw [prefixed?]
    simp [hne _ (by decide : unit 'x' ∈ ("xXoObB" : Text)),
      hne _ (by decide : unit 'X' ∈ ("xXoObB" : Text)),
      hne _ (by decide : unit 'o' ∈ ("xXoObB" : Text)),
      hne _ (by decide : unit 'O' ∈ ("xXoObB" : Text)),
      hne _ (by decide : unit 'b' ∈ ("xXoObB" : Text)),
      hne _ (by decide : unit 'B' ∈ ("xXoObB" : Text))]

theorem prefixed?_ofInt (i : Int) : prefixed? (ofInt i) = none := by
  rw [ofInt]
  split
  · exact prefixed?_minus _
  · exact prefixed?_of_digits fun _ hu => isDigit_of_mem_ofNat _ hu

/-- A text that starts with a digit has no sign. -/
theorem sign_of_startsWithDigit (h : t.StartsWithDigit) : sign t = (false, t) := by
  obtain ⟨u, rest, rfl, hdigit⟩ := h
  have hminus : u ≠ unit '-' := by
    rintro rfl
    exact absurd hdigit (by decide)
  have hplus : u ≠ unit '+' := by
    rintro rfl
    exact absurd hdigit (by decide)
  rw [sign, if_neg hminus, if_neg hplus]

theorem sign_ofInt (i : Int) : sign (ofInt i) = (decide (i < 0), ofNat i.natAbs) := by
  by_cases hneg : i < 0
  · rw [ofInt, if_pos hneg, sign_minus, decide_eq_true hneg]
  · rw [ofInt, if_neg hneg, sign_of_startsWithDigit (ofNat_eq_cons _), decide_eq_false hneg]

/-- **Decimal digits** are a decimal numeral. -/
theorem decimal?_of_nat? (negative : Bool) {n : Nat} (h : nat? 10 t = some n) :
    decimal? negative t = some (Number.ofDecimal negative n 0) := by
  obtain ⟨hne, hfrom⟩ := natFrom?_of_nat? h
  have hall : ∀ u ∈ t, isDigit u = true := fun _ hu => isDigit_of_mem_nat? h hu
  have hdigits : digits t = (t, []) := by
    rw [digits, List.takeWhile_eq_self_iff.mpr hall, List.dropWhile_eq_nil_iff.mpr hall]
  have hsome : t.isEmpty = false := List.isEmpty_eq_false_iff.mpr hne
  have hvalue : value t = n := by rw [value, hfrom, Option.getD_some]
  have hfraction : fraction [] = ([], []) := rfl
  have hexponent : exponent? [] = some 0 := rfl
  simp only [decimal?, hdigits, hfraction, hexponent, hsome, Bool.false_and, Bool.false_eq_true,
    if_false, List.append_nil, hvalue, Option.map_some, List.length_nil, Int.natCast_zero,
    Int.sub_zero]

/-- Digits and a sign in front of them are a numeral. -/
theorem signed?_of_nat? {ds : Text} {n : Nat} (hsign : sign t = (negative, ds))
    (h : nat? 10 ds = some n) : signed? t = some (Number.ofDecimal negative n 0) := by
  have hinfinity : ds ≠ "Infinity" := by
    rintro rfl
    exact absurd (isDigit_of_mem_nat? h (by decide : unit 'I' ∈ ("Infinity" : Text))) (by decide)
  simp only [signed?, hsign]
  rw [if_neg hinfinity, decimal?_of_nat? negative h]

theorem ofDecimal_natural {n : Nat} (hn : n ≠ 0) :
    Number.ofDecimal negative n 0 = Number.ofRatio negative n 1 := by
  have hsmall : ¬ (0 : Int) + ((n.log2 : Int) + 1) < -400 := by omega
  rw [Number.ofDecimal, if_neg hn, if_neg (by decide), if_neg hsmall, if_pos (Int.le_refl 0)]
  rw [Int.toNat_zero, Nat.pow_eq, Nat.pow_zero, Nat.mul_one]

/-- Digits with a sign are the number nearest to their integer, but a zero keeps its sign. -/
theorem ofDecimal_signed (negative : Bool) (n : Nat) :
    Number.ofDecimal negative n 0 = Number.ofInt (Number.signed negative n)
      ∨ Number.signed negative n = 0 ∧ Number.ofDecimal negative n 0 = Number.zero negative := by
  by_cases hn : n = 0
  · right
    rw [hn, Number.ofDecimal, if_pos rfl]
    exact ⟨by cases negative <;> rfl, rfl⟩
  · left
    have hsign : decide (Number.signed negative n < 0) = negative := by
      cases negative
      · simp [Number.signed]
      · simp [Number.signed]
        omega
    rw [ofDecimal_natural hn, Number.ofInt, Number.natAbs_signed, hsign]

/-- The number of a decimal numeral that is an integer. -/
theorem ofDecimal_natAbs (i : Int) :
    Number.ofDecimal (decide (i < 0)) i.natAbs 0 = Number.ofInt i := by
  rcases ofDecimal_signed (decide (i < 0)) i.natAbs with hnearest | ⟨hzero, hnumber⟩
  · rwa [Number.signed_natAbs] at hnearest
  · rw [Number.signed_natAbs] at hzero
    rw [hnumber, hzero, decide_eq_false (Int.lt_irrefl 0), Number.zero_eq, ← Number.ofInt_natCast,
      Int.natCast_zero]

theorem signed?_ofInt (i : Int) : signed? (ofInt i) = some (Number.ofInt i) := by
  rw [signed?_of_nat? (sign_ofInt i) (nat?_ofNat _), ofDecimal_natAbs]

/-- **An integer is read back from its digits**, as the number nearest to it, -/
theorem number_ofInt (i : Int) : number (ofInt i) = Number.ofInt i := by
  have hsome : ¬ (ofInt i).isEmpty = true := by
    rw [List.isEmpty_iff]
    exact ofInt_ne_nil i
  rw [number, trim_ofInt, if_neg hsome, prefixed?_ofInt, signed?_ofInt]
  exact Option.getD_some

/-- and so is a natural number. -/
theorem number_toString (n : Nat) : number (toString n) = Number.ofNat n := by
  rw [Text.ofString_toString, ← ofInt_natCast, number_ofInt, Number.ofInt_natCast]

end Numeral

/-! ## Integers as arguments -/

/-- An integer is read where a number is asked for, -/
theorem readNumber_ofInt (i : Int) : readNumber (Text.ofInt i) = .ok (Number.ofInt i) := by
  rw [readNumber_eq_ok_iff, Numeral.number_ofInt, Number.ofInt, Number.ofRatio]
  exact ⟨Text.isBlankText_ofInt i, rfl, Number.isNaN_ofQuanta _ _⟩

/-- and **a list of integers** where a list of numbers is asked for, also an empty one. -/
theorem readNumbers_join (is : List Int) :
    readNumbers (Text.join "," (is.map Text.ofInt)) = .ok (is.map Number.ofInt) := by
  have hcomma : ∀ part ∈ is.map Text.ofInt, Text.unit ',' ∉ part := by
    intro part hpart
    obtain ⟨i, -, rfl⟩ := List.mem_map.mp hpart
    exact Text.comma_not_mem_ofInt i
  apply readNumbers_of_parts hcomma
  rw [List.forall₂_map_left_iff, List.forall₂_map_right_iff]
  exact List.forall₂_same.mpr fun i _ => readNumber_ofInt i

end Turnstile
