import Mathlib.Order.Basic
import Turnstile.Library.Callable

/-! # The check of arguments, place by place

The check walks along the parameters and the arguments at once. Every place of the longer list has
its parameter and its argument, and what the check comes to can be told from the places alone.

* **`admitPlace`** is what the check says about one place.
* **`admit_eq_ok_iff`** says that arguments are let through when they are at every place, and
  **`admit_eq_error_iff`** that they are refused for the first place at which they are not.
* **`Callable.call_of_admit_ok`** and **`Callable.call_of_admit_error`** say what a call makes of it.
  -/

namespace Turnstile

/-! ## One place -/

/-- Whether a parameter lets its argument be left out. -/
def Parameter.isOmittable (p : Parameter) : Bool := p.isOptional || acceptsUndefined p.type

/-- An argument that is missing is refused unless it may be left out. -/
theorem Parameter.admit_undefined (p : Parameter) :
    p.admit .undefined = if p.isOmittable then .ok () else .error (.missing p) := rfl

/-- An argument that is there is refused unless it is of the kind of its parameter. -/
theorem Parameter.admit_of_ne_undefined (p : Parameter) {argument : Value}
    (h : argument ≠ .undefined) :
    p.admit argument = if p.kind.admits argument then .ok () else .error (.wrongKind p argument) := by
  unfold Parameter.admit
  split
  · exact absurd rfl h
  · rfl

/-- An array has nothing but numbers in it when every element that is there is one. -/
theorem allNumbers_iff {elements : List (Option Value)} :
    allNumbers elements = true ↔ ∀ v, some v ∈ elements → ∃ n, v = .number n := by
  have hnumber : ∀ v : Value, v.isNumber = true ↔ ∃ n, v = .number n := by
    intro v
    unfold Value.isNumber
    split
    · exact iff_of_true rfl ⟨_, rfl⟩
    · next hother => exact iff_of_false Bool.false_ne_true fun ⟨n, hn⟩ => hother n hn
  rw [allNumbers, List.all_eq_true]
  constructor
  · intro h v hv
    exact (hnumber v).mp (h (some v) hv)
  · intro h element helement
    cases element with
    | none => rfl
    | some v => exact (hnumber v).mpr (h v helement)

/-- The check of an argument against the parameter of its place; where there is none, nothing is
checked. -/
def admitPlace : Option Parameter → Value → Except Refusal Unit
  | some p, argument => p.admit argument
  | none, _ => .ok ()

@[simp] theorem argument_tail (arguments : List Value) (i : Nat) :
    argument arguments.tail i = argument arguments (i + 1) := by
  rw [argument, argument, List.getElem?_tail]

/-- An argument beyond the end is missing. -/
theorem argument_of_length_le {arguments : List Value} {i : Nat} (h : arguments.length ≤ i) :
    argument arguments i = .undefined := by
  rw [argument, List.getElem?_eq_none h, Option.getD_none]

/-! ## The places that are left -/

variable {rest : Option Parameter} {parameters : List Parameter} {arguments : List Value}
  {refusal : Refusal}

/-- Without parameters, arguments are let through that no rest parameter takes. -/
theorem admitFrom_none_nil (arguments : List Value) : admitFrom none [] arguments = .ok () := by
  cases arguments <;> simp only [admitFrom]

/-- **The check looks at the first place that is left**, and goes on when it passes. -/
theorem admitFrom_eq_bind (h : 0 < max parameters.length arguments.length) :
    admitFrom rest parameters arguments
      = (admitPlace (parameters[0]?.or rest) (argument arguments 0)).bind fun _ =>
          admitFrom rest parameters.tail arguments.tail := by
  match parameters, arguments with
  | [], [] => exact absurd h (Nat.lt_irrefl 0)
  | [], v :: arguments =>
    cases rest with
    | none =>
      rw [admitFrom_none_nil]
      exact (admitFrom_none_nil arguments).symm
    | some p =>
      rw [admitFrom]
      rfl
  | p :: parameters, [] =>
    rw [admitFrom]
    rfl
  | p :: parameters, v :: arguments =>
    rw [admitFrom]
    rfl

/-- The check of no place at all. -/
theorem admitFrom_of_none (h : max parameters.length arguments.length = 0) :
    admitFrom rest parameters arguments = .ok () := by
  obtain ⟨hp, ha⟩ := Nat.max_eq_zero_iff.mp h
  rw [List.length_eq_zero_iff.mp hp, List.length_eq_zero_iff.mp ha, admitFrom]

/-- One place less is left behind the first one. -/
theorem max_length_tail {n : Nat} (h : max parameters.length arguments.length = n + 1) :
    max parameters.tail.length arguments.tail.length = n := by
  rw [List.length_tail, List.length_tail]
  omega

/-- **Arguments are let through when they are at every place.** -/
theorem admitFrom_eq_ok_iff :
    admitFrom rest parameters arguments = .ok ()
      ↔ ∀ i < max parameters.length arguments.length,
          admitPlace (parameters[i]?.or rest) (argument arguments i) = .ok () := by
  generalize hn : max parameters.length arguments.length = n
  induction n generalizing parameters arguments with
  | zero => exact iff_of_true (admitFrom_of_none hn) nofun
  | succ n ih =>
    have hrest := ih (max_length_tail hn)
    simp only [List.getElem?_tail, argument_tail] at hrest
    rw [admitFrom_eq_bind (by omega), Nat.forall_lt_succ_left, ← hrest]
    cases admitPlace (parameters[0]?.or rest) (argument arguments 0) with
    | error refusal => exact ⟨nofun, fun h => absurd h.1 nofun⟩
    | ok => exact (and_iff_right rfl).symm

/-- **Arguments are refused for the first place** at which they are not let through. -/
theorem admitFrom_eq_error_iff :
    admitFrom rest parameters arguments = .error refusal
      ↔ ∃ i < max parameters.length arguments.length,
          admitPlace (parameters[i]?.or rest) (argument arguments i) = .error refusal
            ∧ ∀ j < i, admitPlace (parameters[j]?.or rest) (argument arguments j) = .ok () := by
  generalize hn : max parameters.length arguments.length = n
  induction n generalizing parameters arguments with
  | zero =>
    rw [admitFrom_of_none hn]
    exact ⟨nofun, fun ⟨i, hi, _⟩ => absurd hi (Nat.not_lt_zero i)⟩
  | succ n ih =>
    have hrest := ih (max_length_tail hn)
    simp only [List.getElem?_tail, argument_tail] at hrest
    simp only [admitFrom_eq_bind (Nat.lt_of_lt_of_eq (Nat.succ_pos n) hn.symm),
      Nat.exists_lt_succ_left, Nat.forall_lt_succ_left]
    cases admitPlace (parameters[0]?.or rest) (argument arguments 0) with
    | error other => simp [Except.bind]
    | ok => simp [Except.bind, hrest]

/-! ## All places of a signature -/

namespace Signature

variable {s : Signature}

/-- The rest parameter stands at every place beyond the end. -/
theorem parameterAt?_eq (s : Signature) (i : Nat) :
    s.parameterAt? i = s.parameters[i]?.or s.rest? := by
  rw [parameterAt?]
  cases s.parameters[i]? <;> rfl

/-- Whether so many arguments are more than a signature takes. -/
def IsSurplus (s : Signature) (given : Nat) : Prop := s.rest? = none ∧ s.parameters.length < given

instance (s : Signature) (given : Nat) : Decidable (s.IsSurplus given) :=
  inferInstanceAs (Decidable (_ ∧ _))

/-- What the check says about the argument at a place. -/
def admitAt (s : Signature) (arguments : List Value) (i : Nat) : Except Refusal Unit :=
  admitPlace (s.parameterAt? i) (argument arguments i)

theorem admit_of_isSurplus (h : s.IsSurplus arguments.length) :
    s.admit arguments = .error (.surplus s.parameters.length arguments.length) := by
  unfold Signature.admit
  rw [h.1, if_pos]
  simpa using h.2

theorem admit_of_not_isSurplus (h : ¬ s.IsSurplus arguments.length) :
    s.admit arguments = admitFrom s.rest? s.parameters arguments := by
  unfold Signature.admit
  rw [if_neg]
  simpa [IsSurplus] using h

/-- **A signature admits arguments** when there are not too many and it admits the one at every
place. -/
theorem admit_eq_ok_iff :
    s.admit arguments = .ok ()
      ↔ ¬ s.IsSurplus arguments.length
        ∧ ∀ i < max s.parameters.length arguments.length, s.admitAt arguments i = .ok () := by
  by_cases h : s.IsSurplus arguments.length
  · rw [admit_of_isSurplus h]
    exact ⟨nofun, fun hall => absurd h hall.1⟩
  · rw [admit_of_not_isSurplus h, admitFrom_eq_ok_iff, and_iff_right h]
    simp only [admitAt, parameterAt?_eq]

/-- **A signature refuses arguments** that are not too many for the first place at which it does not
admit the argument. -/
theorem admit_eq_error_iff (h : ¬ s.IsSurplus arguments.length) :
    s.admit arguments = .error refusal
      ↔ ∃ i < max s.parameters.length arguments.length, s.admitAt arguments i = .error refusal
          ∧ ∀ j < i, s.admitAt arguments j = .ok () := by
  rw [admit_of_not_isSurplus h, admitFrom_eq_error_iff]
  simp only [admitAt, parameterAt?_eq]

/-- At the place of a parameter the check is that of the parameter. -/
theorem admitAt_of_getElem? {i : Nat} {p : Parameter} (h : s.parameters[i]? = some p) :
    s.admitAt arguments i = p.admit (argument arguments i) := by
  rw [admitAt, parameterAt?_eq, h]
  rfl

end Signature

/-! ## Calls -/

namespace Callable

variable {c : Callable} {i : Nat}

/-- Arguments that are admitted reach the routine. -/
theorem call_of_admit_ok (h : c.signature.admit arguments = .ok ()) (world : World) :
    c.call world arguments = c.target.call world arguments := by
  rw [call, h]

/-- A refused call leaves the world as it was. -/
theorem call_of_admit_error (h : c.signature.admit arguments = .error refusal) (world : World) :
    c.call world arguments = (world, .error (c.refused refusal)) := by
  rw [call, h]

/-- A call does not reach the routine if the argument at some place is refused. -/
theorem call_of_admitAt_error (hi : i < max c.signature.parameters.length arguments.length)
    (h : c.signature.admitAt arguments i = .error refusal) (world : World) :
    ∃ other, c.call world arguments = (world, .error (c.refused other)) := by
  cases hwhole : c.signature.admit arguments with
  | ok =>
    have hplace := (Signature.admit_eq_ok_iff.mp hwhole).2 i hi
    rw [h] at hplace
    exact absurd hplace nofun
  | error other => exact ⟨other, call_of_admit_error hwhole world⟩

/-- The first place at which an argument is refused tells why the call is. -/
theorem call_of_first_error (hi : i < max c.signature.parameters.length arguments.length)
    (h : c.signature.admitAt arguments i = .error refusal)
    (hfits : ¬ c.signature.IsSurplus arguments.length)
    (hfront : ∀ j < i, c.signature.admitAt arguments j = .ok ()) (world : World) :
    c.call world arguments = (world, .error (c.refused refusal)) :=
  call_of_admit_error ((Signature.admit_eq_error_iff hfits).mpr ⟨i, hi, h, hfront⟩) world

end Callable

end Turnstile
