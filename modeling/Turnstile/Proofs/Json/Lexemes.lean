import Turnstile.Json
import Turnstile.Number.Numeral

/-! # The words of JSON

The parts of a JSON text that have no parts themselves, as the grammar of JSON describes them.

* **`Json.IsSpace`**, **`Json.IsNumeral`** and **`Json.IsString`** are the blanks between two tokens,
  the numerals, and the strings with what they stand for.
* Each of them ends where it ends: **`Json.append_inj_of_forall`** for words of their own units, and
  **`Json.IsString.unique`** for strings, whose end is their second quote. -/

namespace Turnstile.Json

open Text

variable {t t' s s' x x' : Text} {u : UInt16}

/-! ## Words of their own units -/

/-- **A word ends at the first unit that is none of its own.** -/
theorem append_inj_of_forall {p : UInt16 → Prop} (ht : ∀ u ∈ t, p u) (ht' : ∀ u ∈ t', p u)
    (hx : ∀ u, x.head? = some u → ¬ p u) (hx' : ∀ u, x'.head? = some u → ¬ p u)
    (h : t ++ x = t' ++ x') : t = t' ∧ x = x' := by
  induction t generalizing t' with
  | nil =>
    cases t' with
    | nil => exact ⟨rfl, h⟩
    | cons u' t' =>
      rw [List.nil_append, List.cons_append] at h
      rw [h] at hx
      exact absurd (ht' u' List.mem_cons_self) (hx u' rfl)
  | cons u t ih =>
    cases t' with
    | nil =>
      rw [List.nil_append, List.cons_append] at h
      rw [← h] at hx'
      exact absurd (ht u List.mem_cons_self) (hx' u rfl)
    | cons u' t' =>
      rw [List.cons_append, List.cons_append, List.cons.injEq] at h
      obtain ⟨rfl, hrest⟩ := h
      obtain ⟨rfl, hbehind⟩ := ih (fun u hu => ht u (List.mem_cons_of_mem _ hu))
        (fun u hu => ht' u (List.mem_cons_of_mem _ hu)) hrest
      exact ⟨rfl, hbehind⟩

/-- The units that may stand between two tokens: the blank, the tabulator and the line ends. -/
def spaces : List UInt16 := [0x20, 0x9, 0xA, 0xD]

/-- **Blanks between two tokens**, maybe none. -/
def IsSpace (t : Text) : Prop := ∀ u ∈ t, u ∈ spaces

theorem isSpace_nil : IsSpace [] := fun _ hu => absurd hu List.not_mem_nil

/-! ## Numerals -/

/-- One digit or more. -/
def IsDigits (t : Text) : Prop := t ≠ [] ∧ ∀ u ∈ t, isDigit u = true

/-- The whole part of a numeral: digits, and no zero in front of others. -/
def IsWhole (t : Text) : Prop := IsDigits t ∧ (t.head? = some (unit '0') → t = [unit '0'])

/-- The fraction of a numeral, if there is one: a point and digits. -/
def IsFraction (t : Text) : Prop := t = [] ∨ ∃ ds, IsDigits ds ∧ t = unit '.' :: ds

/-- The exponent of a numeral, if there is one: a letter, maybe a sign, and digits. -/
def IsExponent (t : Text) : Prop :=
  t = [] ∨ ∃ letter sign ds, (letter = unit 'e' ∨ letter = unit 'E')
    ∧ (sign = [] ∨ sign = [unit '-'] ∨ sign = [unit '+']) ∧ IsDigits ds ∧ t = letter :: (sign ++ ds)

/-- **A numeral**: maybe a minus sign, a whole part, and maybe a fraction and an exponent. -/
def IsNumeral (t : Text) : Prop :=
  ∃ sign whole fraction exponent, (sign = [] ∨ sign = [unit '-']) ∧ IsWhole whole
    ∧ IsFraction fraction ∧ IsExponent exponent ∧ t = sign ++ whole ++ fraction ++ exponent

/-- The units of a numeral. -/
def IsNumeralUnit (u : UInt16) : Prop := isDigit u = true ∨ u ∈ ("-+.eE" : Text)

theorem IsDigits.isNumeralUnit (h : IsDigits t) (hu : u ∈ t) : IsNumeralUnit u := Or.inl (h.2 u hu)

theorem IsNumeral.isNumeralUnit (h : IsNumeral t) (hu : u ∈ t) : IsNumeralUnit u := by
  obtain ⟨sign, whole, fraction, exponent, hsign, hwhole, hfraction, hexponent, rfl⟩ := h
  simp only [List.mem_append] at hu
  rcases hu with ((hu | hu) | hu) | hu
  · rcases hsign with rfl | rfl
    · exact absurd hu List.not_mem_nil
    · exact Or.inr (List.mem_singleton.mp hu ▸ by decide)
  · exact hwhole.1.isNumeralUnit hu
  · rcases hfraction with rfl | ⟨ds, hds, rfl⟩
    · exact absurd hu List.not_mem_nil
    · rcases List.mem_cons.mp hu with rfl | hu
      · exact Or.inr (by decide)
      · exact hds.isNumeralUnit hu
  · rcases hexponent with rfl | ⟨letter, sign, ds, hletter, hsign, hds, rfl⟩
    · exact absurd hu List.not_mem_nil
    · rw [List.mem_cons, List.mem_append] at hu
      rcases hu with rfl | hu | hu
      · rcases hletter with rfl | rfl <;> exact Or.inr (by decide)
      · rcases hsign with rfl | rfl | rfl
        · exact absurd hu List.not_mem_nil
        · exact Or.inr (List.mem_singleton.mp hu ▸ by decide)
        · exact Or.inr (List.mem_singleton.mp hu ▸ by decide)
      · exact hds.isNumeralUnit hu

/-- A numeral starts with a minus sign or a digit. -/
theorem IsNumeral.head (h : IsNumeral t) :
    ∃ u rest, t = u :: rest ∧ (u = unit '-' ∨ isDigit u = true) := by
  obtain ⟨sign, whole, fraction, exponent, hsign, hwhole, -, -, rfl⟩ := h
  rcases hsign with rfl | rfl
  · obtain ⟨u, rest, rfl⟩ := List.exists_cons_of_ne_nil hwhole.1.1
    exact ⟨u, rest ++ fraction ++ exponent, rfl, Or.inr (hwhole.1.2 u List.mem_cons_self)⟩
  · exact ⟨unit '-', whole ++ fraction ++ exponent, rfl, Or.inl rfl⟩

/-! ## Strings -/

/-- The units that stand behind a backslash for another unit, and the unit they stand for. -/
def escapes : List (UInt16 × UInt16) :=
  [(unit '"', unit '"'), (unit '\\', unit '\\'), (unit '/', unit '/'), (unit 'b', 0x8),
   (unit 'f', 0xC), (unit 'n', 0xA), (unit 'r', 0xD), (unit 't', 0x9)]

/-- **What stands between the quotes** of a string, and the units that it stands for. -/
inductive Spells : Text → Text → Prop where
  | nil : Spells [] []
  /-- A unit stands for itself, unless it is a control unit, a quote or a backslash. -/
  | plain {t s : Text} {u : UInt16} (visible : 0x20 ≤ u) (noQuote : u ≠ unit '"')
      (noBackslash : u ≠ unit '\\') (rest : Spells t s) : Spells (u :: t) (u :: s)
  /-- A backslash and a letter. -/
  | escaped {t s : Text} {letter u : UInt16} (known : (letter, u) ∈ escapes) (rest : Spells t s) :
      Spells (unit '\\' :: letter :: t) (u :: s)
  /-- A backslash, a `u` and four hexadecimal digits. -/
  | hex {t s ds : Text} {n : Nat} (four : ds.length = 4) (value : nat? 16 ds = some n)
      (rest : Spells t s) : Spells (unit '\\' :: unit 'u' :: (ds ++ t)) (n.toUInt16 :: s)

/-- **A string** and the units that it stands for. No surrogate stands alone in what is written. -/
def IsString (t s : Text) : Prop :=
  ∃ body, Spells body s ∧ body.isWellFormed = true ∧ t = unit '"' :: (body ++ [unit '"'])

/-- No letter stands for two units, and the one of the hexadecimal digits for none. -/
theorem escapes_unique {letter v v' : UInt16} (h : (letter, v) ∈ escapes)
    (h' : (letter, v') ∈ escapes) : v = v' := by
  have hall : escapes.all (fun e => escapes.all fun e' => e.1 != e'.1 || e.2 == e'.2) = true := by
    decide
  have hpair := List.all_eq_true.mp (List.all_eq_true.mp hall _ h) _ h'
  simpa using hpair

theorem not_mem_escapes_u (u : UInt16) : (unit 'u', u) ∉ escapes := by
  have hall : escapes.all (fun e => e.1 != unit 'u') = true := by decide
  intro h
  exact bne_iff_ne.mp (List.all_eq_true.mp hall _ h) rfl

/-- **What stands between two quotes is settled by the text**, up to the second quote. -/
theorem Spells.unique (h : Spells t s) (h' : Spells t' s')
    (heq : t ++ unit '"' :: x = t' ++ unit '"' :: x') : t = t' ∧ s = s' := by
  have hbackslash : unit '\\' ≠ unit '"' := by decide
  induction h generalizing t' s' with
  | nil =>
    cases h' with
    | nil => exact ⟨rfl, rfl⟩
    | plain _ noQuote _ _ => exact absurd (List.cons.inj heq).1.symm noQuote
    | escaped => exact absurd (List.cons.inj heq).1.symm hbackslash
    | hex => exact absurd (List.cons.inj heq).1.symm hbackslash
  | @plain t s u _ noQuote noBackslash _ ih =>
    cases h' with
    | nil => exact absurd (List.cons.inj heq).1 noQuote
    | plain _ _ _ rest' =>
      obtain ⟨rfl, hrest⟩ := List.cons.inj heq
      obtain ⟨rfl, rfl⟩ := ih rest' hrest
      exact ⟨rfl, rfl⟩
    | escaped => exact absurd (List.cons.inj heq).1 noBackslash
    | hex => exact absurd (List.cons.inj heq).1 noBackslash
  | @escaped t s letter u known _ ih =>
    cases h' with
    | nil => exact absurd (List.cons.inj heq).1 hbackslash
    | plain _ _ noBackslash _ => exact absurd (List.cons.inj heq).1.symm noBackslash
    | escaped known' rest' =>
      -- The backslash is there in both texts, and the letter behind it has one meaning.
      obtain ⟨rfl, hrest⟩ := List.cons.inj (List.cons.inj heq).2
      obtain ⟨rfl, rfl⟩ := ih rest' hrest
      exact ⟨rfl, by rw [escapes_unique known known']⟩
    | hex =>
      obtain ⟨rfl, -⟩ := List.cons.inj (List.cons.inj heq).2
      exact absurd known (not_mem_escapes_u u)
  | @hex t s ds n four value _ ih =>
    cases h' with
    | nil => exact absurd (List.cons.inj heq).1 hbackslash
    | plain _ _ noBackslash _ => exact absurd (List.cons.inj heq).1.symm noBackslash
    | escaped known' =>
      obtain ⟨rfl, -⟩ := List.cons.inj (List.cons.inj heq).2
      exact absurd known' (not_mem_escapes_u _)
    | hex four' value' rest' =>
      -- Four digits are cut off both texts, so they are the same four.
      simp only [List.cons_append, List.cons.injEq, true_and, List.append_assoc] at heq
      obtain ⟨rfl, hrest⟩ := List.append_inj heq (four.trans four'.symm)
      obtain ⟨rfl, rfl⟩ := ih rest' hrest
      rw [Option.some.inj (value.symm.trans value')]
      exact ⟨rfl, rfl⟩

/-- A string does not start with a blank. -/
theorem IsString.not_mem_spaces (h : IsString t s) (hu : (t ++ x).head? = some u) : u ∉ spaces := by
  obtain ⟨body, -, -, rfl⟩ := h
  rw [← Option.some.inj hu]
  decide

/-- **A string ends at its second quote**, and stands for the same units wherever it is read. -/
theorem IsString.unique (h : IsString t s) (h' : IsString t' s') (heq : t ++ x = t' ++ x') :
    t = t' ∧ s = s' := by
  obtain ⟨body, hbody, -, rfl⟩ := h
  obtain ⟨body', hbody', -, rfl⟩ := h'
  have hinside : body ++ unit '"' :: x = body' ++ unit '"' :: x' := by
    simpa using heq
  obtain ⟨rfl, rfl⟩ := hbody.unique hbody' hinside
  exact ⟨rfl, rfl⟩

end Turnstile.Json
