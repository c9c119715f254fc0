import Turnstile.Proofs.CommandLine.NumericKinds
import Turnstile.Value.Display

/-! # Printed numbers read back

What is printed for a number or an integer is read back as it was, alone and in a list.

* **`readInteger_ofInt`** reads an integer of any size; **`readNumber_toText`** a number that is an
  integer up to `2 ^ 53` in magnitude.
* **`PrintsAs`** says which text stands for a number in a list: what is printed for it, with blanks
  around it.
* **`ReadsBack`** puts the three kinds together, and **`printed_numbers_read_back`** says that they all
  do. -/

namespace Turnstile

open Text

variable {m : Memory} {i : Int} {x : Number} {t : Text}

/-! ## Integers -/

/-- **An integer is read from its digits**, whatever its size. -/
theorem Numeral.integer?_ofInt (i : Int) : integer? (Text.ofInt i) = some i := by
  have hsome : (Text.ofInt i).isEmpty = false := List.isEmpty_eq_false_iff.mpr (ofInt_ne_nil i)
  have hsigned : (if decide (i < 0) = true then -(i.natAbs : Int) else i.natAbs) = i :=
    Number.signed_natAbs i
  simp only [integer?, trim_ofInt, hsome, Bool.false_eq_true, if_false, prefixed?_ofInt, sign_ofInt,
    nat?_ofNat, Option.bind_eq_bind, Option.bind_some, Option.pure_def, Option.map_some, hsigned]

theorem readInteger_ofInt (i : Int) : readInteger (Text.ofInt i) = .ok i :=
  readInteger_eq_ok_iff.mpr ⟨isBlankText_ofInt i, Numeral.integer?_ofInt i⟩

/-! ## Numbers -/

/-- **A number is read from its text** when it is an integer up to `2 ^ 53` in magnitude. -/
theorem readNumber_toText (h : x.IsIntegral) : readNumber x.toText = .ok x := by
  obtain ⟨i, hi, hx⟩ := Number.isIntegral_iff.mp h
  rw [hx, Number.toText_ofInt hi, readNumber_ofInt]

/-- No comma is printed for a number. -/
theorem comma_not_mem_toText (h : x.IsIntegral) : unit ',' ∉ x.toText := by
  obtain ⟨i, hi, hx⟩ := Number.isIntegral_iff.mp h
  rw [hx, Number.toText_ofInt hi]
  exact comma_not_mem_ofInt i

/-! ## Lists -/

/-- **A text stands for a number** when it is what is printed for it, with blanks around it. -/
def PrintsAs (m : Memory) (x : Number) (t : Text) : Prop :=
  ∃ printed, (Value.number x).display m = .ok printed ∧ IsPadded printed t

theorem printsAs_iff : PrintsAs m x t ↔ IsPadded x.toText t := by
  constructor
  · rintro ⟨printed, hprinted, hpadded⟩
    rwa [← Except.ok.inj hprinted] at hpadded
  · intro hpadded
    exact ⟨x.toText, rfl, hpadded⟩

/-- A text that stands for a number is read as it. -/
theorem PrintsAs.readNumber_eq (h : PrintsAs m x t) (hx : x.IsIntegral) :
    readNumber t = .ok x :=
  (readNumber_of_isPadded (printsAs_iff.mp h)).mpr (readNumber_toText hx)

theorem PrintsAs.comma_not_mem (h : PrintsAs m x t) (hx : x.IsIntegral) : unit ',' ∉ t := by
  rw [(printsAs_iff.mp h).mem_iff isBlank_comma]
  exact comma_not_mem_toText hx

/-- **Texts that stand for numbers**, with commas between them, are read as the list of the numbers. -/
theorem readNumbers_of_printsAs {xs : List Number} {texts : List Text}
    (hxs : ∀ x ∈ xs, x.IsIntegral) (h : List.Forall₂ (PrintsAs m) xs texts) :
    readNumbers (join "," texts) = .ok xs := by
  have hparts : List.Forall₂ (fun t x => readNumber t = .ok x) texts xs ∧ ∀ t
      ∈ texts, unit ',' ∉ t := by
    induction h with
    | nil => exact ⟨.nil, fun t ht => absurd ht List.not_mem_nil⟩
    | @cons x t xs texts hprints _ ih =>
      have hx : x.IsIntegral := hxs x List.mem_cons_self
      obtain ⟨hread, hcomma⟩ := ih fun x hx => hxs x (List.mem_cons_of_mem _ hx)
      refine ⟨.cons (hprints.readNumber_eq hx) hread, ?_⟩
      intro part hpart
      rcases List.mem_cons.mp hpart with rfl | hrest
      · exact hprints.comma_not_mem hx
      · exact hcomma part hrest
  exact readNumbers_of_parts hparts.2 hparts.1

/-! ## All of them -/

/-- **What is printed for numbers reads back.** -/
structure ReadsBack (m : Memory) : Prop where
  /-- An integer of any size is read back as an integer. -/
  integers : ∀ i : Int, ∃ t, (Value.integer i).display m = .ok t
    ∧ ValueKind.integer.read t = .ok (.integer i)
  /-- A number that is an integer up to `2 ^ 53` in magnitude is read back as a number. -/
  numbers : ∀ x : Number, x.IsIntegral → ∃ t, (Value.number x).display m = .ok t
    ∧ ValueKind.number.read t = .ok (.number x)
  /-- A list of such numbers is read back from their texts with commas between them, whatever blanks
  are put around each; no numbers are the empty list. -/
  lists : ∀ (xs : List Number) (texts : List Text), (∀ x ∈ xs, x.IsIntegral) →
    List.Forall₂ (PrintsAs m) xs texts →
    ValueKind.numberArray.read (join "," texts) = .ok (.array (xs.map fun x => some (.number x)))

/-- **Printed numbers read back**, whatever is in memory. -/
theorem printed_numbers_read_back (m : Memory) : ReadsBack m where
  integers i := ⟨Text.ofInt i, rfl, read_integer_eq_ok_iff.mpr ⟨i, readInteger_ofInt i, rfl⟩⟩
  numbers x hx := ⟨x.toText, rfl, read_number_eq_ok_iff.mpr ⟨x, readNumber_toText hx, rfl⟩⟩
  lists xs _ hxs h :=
    read_numberArray_eq_ok_iff.mpr ⟨xs, readNumbers_of_printsAs hxs h, rfl⟩

end Turnstile
