import Turnstile.Proofs.Number.Integral

/-! # The numeric kinds on one text

A text may be read as a number, as an integer and as a list of numbers.

* **`Numeral.number_of_integer?`** compares the two readers of one numeral: whatever is an integer is a
  number, and the nearest one; only a zero with a minus sign is not the number of its integer.
* **`NumericKindsAgree`** says what the three kinds have to do with one another, and
  **`numeric_kinds_agree`** that they do so on every text. -/

namespace Turnstile

open Text

/-! ## Integers are numbers -/

namespace Numeral

variable {t : Text} {i : Int}

/-- **What an integer in text looks like**: nothing, digits behind the prefix of a base, or decimal
digits behind a sign. -/
theorem integer?_cases (h : integer? t = some i) :
    ((trim t).isEmpty = true ∧ i = 0)
      ∨ ((trim t).isEmpty = false ∧ ∃ based n, prefixed? (trim t) = some based
        ∧ nat? based.1 based.2 = some n ∧ i = n)
      ∨ ((trim t).isEmpty = false ∧ prefixed? (trim t) = none
        ∧ ∃ n, nat? 10 (sign (trim t)).2 = some n ∧ i = Number.signed (sign (trim t)).1 n) := by
  rw [integer?] at h
  cases hempty : (trim t).isEmpty with
  | true =>
    rw [hempty, if_pos rfl] at h
    exact Or.inl ⟨rfl, (Option.some.inj h).symm⟩
  | false =>
    right
    cases hprefix : prefixed? (trim t) with
    | some based =>
      simp only [hempty, Bool.false_eq_true, if_false, hprefix, Option.map_eq_some_iff,
        Option.bind_eq_bind, Option.bind_eq_some_iff, Option.pure_def, Option.some.injEq] at h
      obtain ⟨_, ⟨n, hn, rfl⟩, hi⟩ := h
      exact Or.inl ⟨rfl, based, n, rfl, hn, hi.symm⟩
    | none =>
      simp only [hempty, Bool.false_eq_true, if_false, hprefix, Option.map_eq_some_iff,
        Option.bind_eq_bind, Option.bind_eq_some_iff, Option.pure_def, Option.some.injEq] at h
      obtain ⟨_, ⟨n, hn, rfl⟩, hi⟩ := h
      exact Or.inr ⟨rfl, rfl, n, hn, hi.symm⟩

/-- **A text that writes an integer writes the number nearest to it**, except that a zero may have a
minus sign. -/
theorem number_of_integer? (h : integer? t = some i) :
    number t = Number.ofInt i ∨ i = 0 ∧ ∃ negative, number t = .zero negative := by
  rcases integer?_cases h with ⟨hempty, hi⟩ | ⟨hsome, based, n, hprefix, hn, hi⟩
    | ⟨hsome, hprefix, n, hn, hi⟩
  · -- Nothing is the integer zero, and the number zero without a sign.
    right
    rw [number, hempty, if_pos rfl]
    exact ⟨hi, false, rfl⟩
  · -- Behind a prefix both readers see the same digits.
    left
    have hnumber : number t = ((nat? based.1 based.2).map Number.ofNat).getD .nan := by
      rw [number, hsome, if_neg Bool.false_ne_true, hprefix]
    rw [hnumber, hn, Option.map_some, Option.getD_some, hi, Number.ofInt_natCast]
  · -- A decimal integer is a decimal number without a point and an exponent.
    have hnumber : number t = Number.ofDecimal (sign (trim t)).1 n 0 := by
      rw [number, hsome, if_neg Bool.false_ne_true, hprefix]
      simp only [signed?_of_nat? (Prod.mk.eta (p := sign (trim t))).symm hn, Option.getD_some]
    rw [hnumber, hi]
    rcases ofDecimal_signed (sign (trim t)).1 n with hnearest | ⟨hzero, hsigned⟩
    · exact Or.inl hnearest
    · exact Or.inr ⟨hzero, _, hsigned⟩

end Numeral

variable {raw : Text} {i : Int} {v : Value}

/-- **What is read as an integer is read as a number**: the one nearest to the integer, which is the
integer itself up to `2 ^ 53`. -/
theorem readNumber_of_readInteger (h : readInteger raw = .ok i) :
    ∃ x, readNumber raw = .ok x ∧ (i ≠ 0 → x = .ofInt i)
      ∧ (i.natAbs ≤ 2 ^ 53 → x.toInt? = some i) := by
  obtain ⟨hblank, hinteger⟩ := readInteger_eq_ok_iff.mp h
  refine ⟨Numeral.number raw, ?_, ?_⟩
  · -- Neither of the two numbers is the one that is refused.
    rw [readNumber_eq_ok_iff]
    refine ⟨hblank, rfl, ?_⟩
    rcases Numeral.number_of_integer? hinteger with hnearest | ⟨-, negative, hzero⟩
    · rw [hnearest, Number.ofInt, Number.ofRatio, Number.isNaN_ofQuanta]
    · rw [hzero, Number.zero, Number.isNaN_ofQuanta]
  · rcases Numeral.number_of_integer? hinteger with hnearest | ⟨rfl, negative, hzero⟩
    · exact ⟨fun _ => hnearest, fun hsmall => by rw [hnearest, Number.toInt?_ofInt hsmall]⟩
    · exact ⟨fun hne => absurd rfl hne, fun _ => by rw [hzero, Number.toInt?_zero]⟩

/-! ## The kinds -/

/-- Texts that are read as numbers one by one are numbers one by one. -/
theorem forall₂_read_number_iff {parts : List Text} {vs : List Value} :
    List.Forall₂ (fun part v => ValueKind.number.read part = .ok v) parts vs
      ↔ ∃ xs, List.Forall₂ (fun part x => readNumber part = .ok x) parts xs
        ∧ xs.map Value.number = vs := by
  constructor
  · intro h
    induction h with
    | nil => exact ⟨[], .nil, rfl⟩
    | cons hpart _ ih =>
      obtain ⟨x, hx, rfl⟩ := read_number_eq_ok_iff.mp hpart
      obtain ⟨xs, hxs, rfl⟩ := ih
      exact ⟨x :: xs, .cons hx hxs, rfl⟩
  · rintro ⟨xs, h, rfl⟩
    rw [List.forall₂_map_right_iff]
    exact h.imp fun part x hx => read_number_eq_ok_iff.mpr ⟨x, hx, rfl⟩

/-- **A text that is not blank is a list of the numbers that its parts are.** -/
theorem read_numberArray_iff (hblank : raw.isBlankText = false) :
    ValueKind.numberArray.read raw = .ok v
      ↔ ∃ vs, List.Forall₂ (fun part v => ValueKind.number.read part = .ok v)
          (split (unit ',') raw) vs ∧ v = .array (vs.map some) := by
  rw [read_numberArray_eq_ok_iff]
  simp only [readNumbers_eq_ok_iff hblank, forall₂_read_number_iff]
  constructor
  · rintro ⟨xs, hxs, rfl⟩
    exact ⟨xs.map Value.number, ⟨xs, hxs, rfl⟩, by rw [List.map_map, Function.comp_def]⟩
  · rintro ⟨_, ⟨xs, hxs, rfl⟩, rfl⟩
    exact ⟨xs, hxs, by rw [List.map_map, Function.comp_def]⟩

/-- **How the numeric kinds agree** on a text. -/
structure NumericKindsAgree (raw : Text) : Prop where
  /-- What is read as an integer is read as a number: the one nearest to the integer, and the integer
  itself up to `2 ^ 53` in magnitude. -/
  integer : ∀ v, ValueKind.integer.read raw = .ok v →
    ∃ i x, v = .integer i ∧ ValueKind.number.read raw = .ok (.number x)
      ∧ (i ≠ 0 → x = .ofInt i) ∧ (i.natAbs ≤ 2 ^ 53 → x.toInt? = some i)
  /-- Without a comma, what is read as a number is read as the list of it alone. -/
  single : unit ',' ∉ raw → ∀ v, ValueKind.number.read raw = .ok v →
    ValueKind.numberArray.read raw = .ok (.array [some v])
  /-- With commas, it is read as a list when each of the parts between them is read as a number, and
  then as the list of these numbers. -/
  list : unit ',' ∈ raw → ∃ parts, raw = join "," parts ∧ (∀ part ∈ parts, unit ',' ∉ part) ∧
    ∀ v, ValueKind.numberArray.read raw = .ok v
      ↔ ∃ vs, List.Forall₂ (fun part v => ValueKind.number.read part = .ok v) parts vs
        ∧ v = .array (vs.map some)
  /-- A text of blank units alone is no number and no integer, but the empty list. -/
  blank : raw.isBlankText = true →
    ValueKind.number.read raw = .error (.notANumber raw)
      ∧ ValueKind.integer.read raw = .error (.notAnInteger raw)
      ∧ ValueKind.numberArray.read raw = .ok (.array [])

/-- **The numeric kinds agree on every text.** -/
theorem numeric_kinds_agree (raw : Text) : NumericKindsAgree raw where
  integer v h := by
    obtain ⟨i, hi, rfl⟩ := read_integer_eq_ok_iff.mp h
    obtain ⟨x, hx, hnearest, hsame⟩ := readNumber_of_readInteger hi
    exact ⟨i, x, rfl, read_number_eq_ok_iff.mpr ⟨x, hx, rfl⟩, hnearest, hsame⟩
  single hcomma v h := by
    obtain ⟨x, hx, rfl⟩ := read_number_eq_ok_iff.mp h
    rw [read_numberArray_iff (readNumber_eq_ok_iff.mp hx).1, split_of_not_mem hcomma]
    exact ⟨[.number x], .cons h .nil, rfl⟩
  list hcomma := by
    have hblank : raw.isBlankText = false :=
      isBlankText_eq_false_iff.mpr ⟨unit ',', hcomma, isBlank_comma⟩
    refine ⟨split (unit ',') raw, ?_, fun part hpart => not_mem_of_mem_split hpart, ?_⟩
    · rw [comma_eq, join_split]
    · exact fun v => read_numberArray_iff hblank
  blank h := by
    refine ⟨?_, ?_, ?_⟩
    · rw [ValueKind.read, readNumber, h, Bool.true_or, if_pos rfl]
      rfl
    · rw [ValueKind.read, readInteger, h, if_pos rfl]
      rfl
    · rw [ValueKind.read, readNumbers, h, if_pos rfl]
      rfl

end Turnstile
