import Mathlib.Data.List.Forall2
import Turnstile.CommandLine.Argument
import Turnstile.Proofs.Text.Parts

/-! # Values read from text

What it takes for a text to be read as a value of a kind.

* **`map_eq_ok_iff`** and **`mapM_eq_ok_iff`** open a result that is made of another one, and of
  those of a list.
* **`read_number_eq_ok_iff`**, **`read_integer_eq_ok_iff`** and **`read_numberArray_eq_ok_iff`** do
  so for the kinds that can fail, **`readNumber_eq_ok_iff`** and **`readInteger_eq_ok_iff`** for the
  readers behind them.
* A list is read part by part: **`readNumbers_eq_ok_iff`** takes one apart, **`readNumbers_of_parts`**
  puts one together. Blanks around a part do not matter (**`readNumber_of_isPadded`**). -/

namespace Turnstile

open Text

variable {raw core : Text} {parts : List Text} {x : Number} {xs : List Number} {i : Int} {v : Value}

/-! ## Results of results -/

/-- What is made of a result is a success only of a success. -/
theorem map_eq_ok_iff {ε α β : Type} {f : α → β} {result : Except ε α} {b : β} :
    result.map f = .ok b ↔ ∃ a, result = .ok a ∧ f a = b := by
  cases result with
  | error e => exact ⟨fun h => absurd h nofun, fun ⟨_, h, _⟩ => absurd h nofun⟩
  | ok a =>
    constructor
    · intro h
      exact ⟨a, rfl, Except.ok.inj h⟩
    · rintro ⟨a', ha, rfl⟩
      rw [Except.ok.inj ha]
      rfl

/-- **A list goes through without a fault** when each of its elements does. -/
theorem mapM_eq_ok_iff {ε α β : Type} {f : α → Except ε β} {as : List α} {bs : List β} :
    as.mapM f = .ok bs ↔ List.Forall₂ (fun a b => f a = .ok b) as bs := by
  induction as generalizing bs with
  | nil =>
    rw [List.mapM_nil, List.forall₂_nil_left_iff]
    exact ⟨fun h => (Except.ok.inj h).symm, fun h => by rw [h]; rfl⟩
  | cons a as ih =>
    rw [List.mapM_cons, List.forall₂_cons_left_iff]
    cases ha : f a with
    | error e => exact ⟨fun h => absurd h nofun, fun ⟨_, _, h, _⟩ => absurd h nofun⟩
    | ok b =>
      constructor
      · intro h
        cases has : as.mapM f with
        | error e =>
          rw [has] at h
          exact absurd h nofun
        | ok rest =>
          rw [has] at h
          exact ⟨b, rest, rfl, ih.mp has, (Except.ok.inj h).symm⟩
      · rintro ⟨b', rest, hb', hrest, rfl⟩
        rw [ih.mpr hrest, Except.ok.inj hb']
        rfl

/-! ## The kinds that can fail -/

theorem read_number_eq_ok_iff :
    ValueKind.number.read raw = .ok v ↔ ∃ x, readNumber raw = .ok x ∧ .number x = v :=
  map_eq_ok_iff

theorem read_integer_eq_ok_iff :
    ValueKind.integer.read raw = .ok v ↔ ∃ i, readInteger raw = .ok i ∧ .integer i = v :=
  map_eq_ok_iff

theorem read_numberArray_eq_ok_iff :
    ValueKind.numberArray.read raw = .ok v
      ↔ ∃ xs, readNumbers raw = .ok xs ∧ .array (xs.map fun x => some (.number x)) = v :=
  map_eq_ok_iff

/-! ## One number -/

/-- A text is read as an integer when it is not blank and writes one, -/
theorem readInteger_eq_ok_iff :
    readInteger raw = .ok i ↔ raw.isBlankText = false ∧ Numeral.integer? raw = some i := by
  cases hblank : raw.isBlankText with
  | true => simp [readInteger, hblank]
  | false => cases hinteger : Numeral.integer? raw <;> simp [readInteger, hblank, hinteger]

/-- and as a number when it is not blank and writes a number. -/
theorem readNumber_eq_ok_iff :
    readNumber raw = .ok x ↔ raw.isBlankText = false ∧ Numeral.number raw = x ∧ x.isNaN = false := by
  cases hblank : raw.isBlankText with
  | true => simp [readNumber, hblank]
  | false =>
    cases hnan : (Numeral.number raw).isNaN with
    | true =>
      simp only [readNumber, hblank, hnan, Bool.false_or, if_true, reduceCtorEq, true_and, false_iff]
      rintro ⟨rfl, hnumber⟩
      exact absurd (hnan.symm.trans hnumber) nofun
    | false =>
      simp only [readNumber, hblank, hnan, Bool.false_or, Bool.false_eq_true, if_false,
        Except.ok.injEq, true_and]
      exact ⟨fun h => ⟨h, h ▸ hnan⟩, fun h => h.1⟩

/-- **Blanks around a number** do not matter. -/
theorem readNumber_of_isPadded (h : IsPadded core raw) :
    readNumber raw = .ok x ↔ readNumber core = .ok x := by
  have hnumber : Numeral.number raw = Numeral.number core := by
    rw [Numeral.number, Numeral.number, h.trim_eq]
  rw [readNumber_eq_ok_iff, readNumber_eq_ok_iff, h.isBlankText_eq, hnumber]

/-! ## Many numbers -/

/-- The text that parts are joined with is one unit. -/
theorem comma_eq : ofString "," = [unit ','] := by decide

theorem isBlank_comma : isBlank (unit ',') = false := by decide

/-- **A list of numbers is read part by part.** -/
theorem readNumbers_eq_ok_iff (hblank : raw.isBlankText = false) :
    readNumbers raw = .ok xs
      ↔ List.Forall₂ (fun part x => readNumber part = .ok x) (split (unit ',') raw) xs := by
  have htrim : ∀ part x, readNumber (trim part) = .ok x ↔ readNumber part = .ok x :=
    fun part x => (readNumber_of_isPadded (isPadded_trim part)).symm
  rw [readNumbers, hblank, if_neg Bool.false_ne_true, mapM_eq_ok_iff]
  simp only [htrim]

/-- **Parts that are numbers**, with commas between them, are a list of these numbers. -/
theorem readNumbers_of_parts (hcomma : ∀ part ∈ parts, unit ',' ∉ part)
    (h : List.Forall₂ (fun part x => readNumber part = .ok x) parts xs) :
    readNumbers (join "," parts) = .ok xs := by
  cases h with
  | nil => rfl
  | @cons part x parts xs hpart hparts =>
    have hblank : (join "," (part :: parts)).isBlankText = false := by
      obtain ⟨u, hu, hunit⟩ := isBlankText_eq_false_iff.mp (readNumber_eq_ok_iff.mp hpart).1
      exact isBlankText_eq_false_iff.mpr ⟨u, mem_join_of_mem hu List.mem_cons_self _, hunit⟩
    rw [readNumbers_eq_ok_iff hblank, comma_eq, split_join (List.cons_ne_nil _ _) hcomma]
    exact List.Forall₂.cons hpart hparts

end Turnstile
