import Turnstile.Proofs.Library.BuiltinCalls
import Turnstile.Proofs.Signature.Fitting

/-! # Reading from arrays of numbers

An argument of the kind of arrays of numbers is checked by the elements that it has, and a routine reads
it by index. The two see the same as long as there is an element at every index. An array that lacks
some passes the check too, and reads as `undefined` there.

* **`Value.IsAbsentAt`** says that an array lacks an element, **`Value.ReadsAsNumbers`** that a value
  reads as numbers wherever it does not.
* **`ValueKind.admits_numberArray_iff`** says that these are the arrays and vectors that the check lets
  through.
* **`Callable.reads_numbers_where_there`** says so of the arguments of a call. -/

namespace Turnstile

namespace Value

variable {v : Value} {i : Nat}

/-! ## Elements that are there -/

/-- An array or a vector of numbers. -/
def IsRow (v : Value) : Prop :=
  (∃ elements, v = .array elements) ∨ ∃ format elements, v = .numberVector format elements

/-- The number of the indices of an array or a vector. -/
def places : Value → Nat
  | .array elements => elements.length
  | .numberVector _ elements => elements.length
  | _ => 0

/-- Whether an array has no element at one of its indices. -/
def IsAbsentAt (v : Value) (i : Nat) : Prop :=
  ∃ elements : List (Option Value), v = .array elements ∧ elements[i]? = some none

/-- **What reads as numbers wherever an element is there**: at every index below its length there is a
number to be read, unless the element is absent, and an absent one reads as `undefined`. -/
structure ReadsAsNumbers (v : Value) : Prop where
  length : v.length = .number (.ofNat v.places)
  number_iff : ∀ i < v.places, (∃ n, v.element i = .number n) ↔ ¬ v.IsAbsentAt i
  absent : ∀ i, v.IsAbsentAt i → i < v.places ∧ v.element i = .undefined

theorem isAbsentAt_array {elements : List (Option Value)} :
    (array elements).IsAbsentAt i ↔ elements[i]? = some none := by
  constructor
  · rintro ⟨others, heq, habsent⟩
    rwa [array.inj heq]
  · exact fun h => ⟨elements, rfl, h⟩

theorem not_isAbsentAt_numberVector (format : ElementFormat) (elements : List Number) (i : Nat) :
    ¬ (numberVector format elements).IsAbsentAt i := by
  rintro ⟨others, heq, -⟩
  exact Value.noConfusion heq

theorem element_array_of_there {elements : List (Option Value)} (h : elements[i]? = some (some v)) :
    (array elements).element i = v := by
  rw [element, h]
  rfl

theorem element_array_of_absent {elements : List (Option Value)} (h : elements[i]? = some none) :
    (array elements).element i = .undefined := by
  rw [element, h]
  rfl

/-- **An array of nothing but numbers** reads as numbers where it has elements, -/
theorem readsAsNumbers_array {elements : List (Option Value)}
    (numbers : ∀ v, some v ∈ elements → ∃ n, v = .number n) : (array elements).ReadsAsNumbers where
  length := rfl
  number_iff i hi := by
    rw [isAbsentAt_array]
    cases helement : elements[i]? with
    | none =>
      have hbeyond : elements.length ≤ i := List.getElem?_eq_none_iff.mp helement
      exact absurd hi (Nat.not_lt.mpr hbeyond)
    | some stored =>
      cases stored with
      | none =>
        rw [element_array_of_absent helement]
        exact iff_of_false (fun ⟨n, hn⟩ => Value.noConfusion hn) (not_not.mpr rfl)
      | some v =>
        rw [element_array_of_there helement]
        exact iff_of_true (numbers v (List.mem_of_getElem? helement))
          fun heq => Option.some_ne_none v (Option.some.inj heq)
  absent i habsent := by
    rw [isAbsentAt_array] at habsent
    exact ⟨(List.getElem?_eq_some_iff.mp habsent).1, element_array_of_absent habsent⟩

/-- and there is no other array that does. -/
theorem numbers_of_readsAsNumbers {elements : List (Option Value)}
    (h : (array elements).ReadsAsNumbers) : ∀ v, some v ∈ elements → ∃ n, v = .number n := by
  intro v hv
  obtain ⟨i, hi⟩ := List.getElem?_of_mem hv
  have hthere : ¬ (array elements).IsAbsentAt i := by
    rw [isAbsentAt_array, hi]
    exact fun heq => Option.some_ne_none v (Option.some.inj heq)
  have hread := (h.number_iff i (List.getElem?_eq_some_iff.mp hi).1).mpr hthere
  rwa [element_array_of_there hi] at hread

/-- A vector of numbers reads as numbers everywhere. -/
theorem readsAsNumbers_numberVector (format : ElementFormat) (elements : List Number) :
    (numberVector format elements).ReadsAsNumbers where
  length := rfl
  number_iff i hi := by
    have hi : i < elements.length := hi
    refine iff_of_true ⟨elements[i], ?_⟩ (not_isAbsentAt_numberVector format elements i)
    rw [element, List.getElem?_eq_getElem hi]
    rfl
  absent i habsent := absurd habsent (not_isAbsentAt_numberVector format elements i)

/-- Such a value reads as a number at every index exactly if it lacks no element. -/
theorem ReadsAsNumbers.forall_number_iff (h : v.ReadsAsNumbers) :
    (∀ i < v.places, ∃ n, v.element i = .number n) ↔ ∀ i, ¬ v.IsAbsentAt i := by
  constructor
  · intro hall i habsent
    have hi := (h.absent i habsent).1
    exact (h.number_iff i hi).mp (hall i hi) habsent
  · exact fun hnone i hi => (h.number_iff i hi).mpr (hnone i)

end Value

/-! ## Arrays and vectors that pass the check -/

/-- **The check of arrays of numbers** lets through the arrays and vectors that read as numbers
wherever an element is there. -/
theorem ValueKind.admits_numberArray_iff {v : Value} :
    ValueKind.numberArray.admits v = true ↔ v.IsRow ∧ v.ReadsAsNumbers := by
  rw [admits_iff_holds]
  constructor
  · intro h
    cases h with
    | array numbers => exact ⟨.inl ⟨_, rfl⟩, Value.readsAsNumbers_array numbers⟩
    | vector format elements =>
      exact ⟨.inr ⟨_, _, rfl⟩, Value.readsAsNumbers_numberVector format elements⟩
  · rintro ⟨⟨elements, rfl⟩ | ⟨format, elements, rfl⟩, hreads⟩
    · exact .array (Value.numbers_of_readsAsNumbers hreads)
    · exact .vector format elements

namespace Callable

/-- **Reading from what passed the check.** The check of an array of numbers lets an array or a vector
through exactly if it reads as a number at every index below its length where it has an element; where
it lacks one it reads as `undefined`. So every index reads as a number exactly if no element is absent.
What is said of a value holds of every argument that reaches a routine in the place of such a
parameter. -/
theorem reads_numbers_where_there (v : Value) :
    (ValueKind.numberArray.admits v = true ↔ v.IsRow ∧ v.ReadsAsNumbers)
      ∧ (ValueKind.numberArray.admits v = true →
          ((∀ i < v.places, ∃ n, v.element i = .number n) ↔ ∀ i, ¬ v.IsAbsentAt i))
      ∧ ∀ (c : Callable) (arguments : List Value) (i : Nat) (p : Parameter),
          c.signature.admit arguments = .ok () → c.signature.parameterAt? i = some p →
          p.kind = .numberArray → argument arguments i = v → v ≠ .undefined →
          v.IsRow ∧ v.ReadsAsNumbers := by
  refine ⟨ValueKind.admits_numberArray_iff, fun hadmits => ?_, ?_⟩
  · exact (ValueKind.admits_numberArray_iff.mp hadmits).2.forall_number_iff
  · rintro c arguments i p hadmitted hplace hkind rfl hgiven
    -- A value that is there was given, so its place is one of those that were checked.
    have hshort : i < arguments.length := by
      by_contra hbeyond
      exact hgiven (argument_of_length_le (Nat.le_of_not_lt hbeyond))
    obtain ⟨q, hq, htakes⟩ := (Signature.admit_eq_ok_iff_fits.mp hadmitted).places i
      (Nat.lt_of_lt_of_le hshort (Nat.le_max_right _ _))
    rw [hplace] at hq
    obtain rfl := Option.some.inj hq
    rw [Parameter.takes_iff_of_ne_undefined hgiven, hkind, ← ValueKind.admits_iff_holds] at htakes
    exact ValueKind.admits_numberArray_iff.mp htakes

/-! ## An array with a gap -/

/-- An array of three elements, of which the second is absent. -/
def gappy : Value := .array [some (.number (.ofInt 1)), none, some (.number (.ofInt 3))]

/-- The sum of the squares of its elements ends where there is none. -/
theorem sum_gappy : SquareSum.sum gappy .undefined = .error (.notInt32 1 .undefined) := by
  have hlength : gappy.length = .number (.ofNat 3) := rfl
  have hfirst : SquareSum.int32? (gappy.element 0) = some 1 := SquareSum.int32?_ofInt (by decide)
  have hcount : SquareSum.count? gappy.length (.number (.ofNat 3)) = some 3 := by
    rw [hlength, SquareSum.count?_ofNat (Nat.le_refl 3) (by decide)]
  -- The first element is squared; the next one is what reading past a gap gives.
  rw [SquareSum.sum_undefined, hlength, SquareSum.sum_of_count? hcount]
  simp only [SquareSum.sumFrom, hfirst]
  rfl

/-- It is an array of nothing but numbers, -/
theorem hasType_gappy : gappy.HasType "ArrayLike<number>" := by
  refine .array fun v hv => ?_
  simp only [List.mem_cons, List.not_mem_nil, Option.some.injEq, or_false, reduceCtorEq,
    false_or] at hv
  rcases hv with rfl | rfl
  · exact ⟨_, rfl⟩
  · exact ⟨_, rfl⟩

theorem not_isRecord_gappy : ¬ gappy.IsRecord := by
  rintro ⟨members, hmembers⟩
  exact Value.noConfusion hmembers

/-- so the routine is called with it. -/
theorem admit_gappy : Builtin.sumOfSquares.signature.admit [gappy] = .ok () :=
  Builtin.admit_of_allows (Builtin.allows_values (Nat.le_succ 1) hasType_gappy rfl)
    not_isRecord_gappy

/-- **An array with a gap passes the check of an array of numbers, and a routine reads `undefined` from
it**: the sum of squares is called with it and ends at the absent element. -/
theorem gap_passes_check :
    ValueKind.numberArray.admits gappy = true ∧ gappy.length = .number (.ofNat 3)
      ∧ gappy.element 1 = .undefined ∧ (¬ ∃ n, gappy.element 1 = .number n)
      ∧ ((Session.withBuiltin .sumOfSquares).perform (.shelf []) (.execute "array" "sumOfSquares"
            [gappy])).2
        = .error (.error "RangeError" "values[1] is not a 32-bit signed integer: undefined" none) := by
  have hkind : ValueKind.ofType "ArrayLike<number>" = .numberArray := by decide
  have hadmits := ValueKind.admits_of_hasType hasType_gappy not_isRecord_gappy
  have hread : gappy.element 1 = .undefined := Value.element_array_of_absent rfl
  rw [hkind] at hadmits
  refine ⟨hadmits, rfl, hread, ?_, ?_⟩
  · rintro ⟨n, hn⟩
    rw [hread] at hn
    exact Value.noConfusion hn
  have hmessage : (SquareSum.Fault.notInt32 1 .undefined).message
      = .ok "values[1] is not a 32-bit signed integer: undefined" := by
    rw [SquareSum.Fault.message, Text.ofNat_of_lt (by decide)]
    rfl
  have hexecute : (Session.withBuiltin .sumOfSquares).perform (.shelf []) (.execute "array"
      "sumOfSquares" [gappy]) = _ :=
    Session.perform_execute_builtin (Session.lookup_withBuiltin .sumOfSquares) [gappy]
  rw [call_of_admit_ok admit_gappy] at hexecute
  have hcall :
      Builtin.sumOfSquares.callable.target.call (Session.withBuiltin .sumOfSquares).world [gappy]
      = _ := SquareSum.call_of_fault sum_gappy rfl rfl _
  rw [hexecute, hcall, Session.after, SquareSum.Fault.toValue, hmessage]
  rfl

end Callable

end Turnstile
