import Turnstile.Proofs.Library.Builtin
import Turnstile.Proofs.Routine.SquareSum
import Turnstile.Proofs.Signature.Admission
import Turnstile.Proofs.Text.Decimal

/-! # Built-in routines called through a session

The check of arguments knows kinds only, and the kind of array-like values of numbers is that of arrays
and vectors. So arguments that the declared types allow reach a built-in routine unchanged, with one
exception: a record that is array-like is refused before it gets there.

* **`Value.HasType`** says which values are of the types that built-in routines declare, and
  **`Signature.Allows`** which arguments a signature allows.
* **`ValueKind.admits_of_hasType`** holds types against kinds: a value of a type is of its kind, unless
  it is a record.
* **`Builtin.admit_of_allows`** and **`Builtin.call_record`** do so for whole lists of arguments.
* **`Session.execute_builtin`** compares a call through a session with a direct one. -/

namespace Turnstile

/-! ## Types -/

/-- **The values of the types that built-in routines declare.** What is array-like has a length and
numbers at its indices, as far as there is anything. -/
inductive Value.HasType : (type : Text) → Value → Prop where
  | number (n : Number) : HasType "number" (.number n)
  | text (t : Text) : HasType "string" (.text t)
  | array {elements : List (Option Value)}
      (numbers : ∀ v, some v ∈ elements → ∃ n, v = .number n) :
    HasType "ArrayLike<number>" (.array elements)
  | vector (format : ElementFormat) (elements : List Number) :
    HasType "ArrayLike<number>" (.numberVector format elements)
  | record {members : List (Text × Value)}
      (length : ∃ n, members.lookup ("length" : Text) = some (.number n))
      (numbers : ∀ i v, members.lookup (Text.ofNat i) = some v → ∃ n, v = .number n) :
    HasType "ArrayLike<number>" (.record members)
  | allocator (a : AllocatorId) : HasType "Allocator" (.allocator a)
  | owned (s : StringId) : HasType "OwnedString | null" (.owned s)
  | null : HasType "OwnedString | null" .null

/-- Whether a value is a record. -/
def Value.IsRecord (v : Value) : Prop := ∃ members, v = .record members

variable {type : Text} {v : Value}

theorem Value.HasType.ne_undefined (h : v.HasType type) : v ≠ .undefined := by
  cases h <;> nofun

/-- **A value of a type is of the kind of the type**, unless it is a record. -/
theorem ValueKind.admits_of_hasType (h : v.HasType type) (hrecord : ¬ v.IsRecord) :
    (ValueKind.ofType type).admits v = true := by
  cases h with
  | array numbers =>
    have hkind : ofType "ArrayLike<number>" = .numberArray := by decide
    rw [hkind, admits, allNumbers_iff]
    exact numbers
  | record => exact absurd ⟨_, rfl⟩ hrecord
  | number => rfl
  | text => rfl
  | vector => rfl
  | allocator => rfl
  | owned => rfl
  | null => rfl

/-- Records are of one type only. -/
theorem Value.HasType.eq_arrayLike (h : v.HasType type) (hrecord : v.IsRecord) :
    type = "ArrayLike<number>" := by
  obtain ⟨members, rfl⟩ := hrecord
  cases h
  rfl

/-! ## Lists of arguments -/

/-- **The arguments that a signature allows**: as many as there are parameters at most, each of the type
of its parameter, or left out where the parameter is optional. -/
structure Signature.Allows (s : Signature) (arguments : List Value) : Prop where
  length_le : arguments.length ≤ s.parameters.length
  fits : ∀ (i : Nat) (p : Parameter), s.parameters[i]? = some p →
    (argument arguments i).HasType p.type
      ∨ argument arguments i = .undefined ∧ p.isOptional = true

namespace Builtin

variable {b : Builtin} {arguments : List Value} {i : Nat} {p : Parameter}

/-- Built-in routines declare the kinds of their types. -/
theorem kind_eq (hp : p ∈ b.signature.parameters) : p.kind = ValueKind.ofType p.type := by
  have hall : ∀ b ∈ [sumOfSquares, fibonacci, createString, freeString],
      ∀ p ∈ b.signature.parameters, p.kind = ValueKind.ofType p.type := by decide
  refine hall b ?_ p hp
  cases b <;> decide

/-- Only the values to be summed up can be a record. -/
theorem eq_sumOfSquares (hp : b.signature.parameters[i]? = some p)
    (htype : p.type = "ArrayLike<number>") : b = sumOfSquares ∧ i = 0 := by
  have hall : ∀ b ∈ [sumOfSquares, fibonacci, createString, freeString], ∀ i < 2,
      (b.signature.parameters[i]?).map (·.type) = some ("ArrayLike<number>" : Text) →
        b = sumOfSquares ∧ i = 0 := by
    decide
  have hlength : b.signature.parameters.length ≤ 2 := by cases b <;> decide
  obtain ⟨hi, -⟩ := List.getElem?_eq_some_iff.mp hp
  refine hall b (by cases b <;> decide) i (by omega) ?_
  rw [hp, Option.map_some, htype]

/-- An allowed argument is admitted in its place, unless it is a record. -/
theorem admitAt_of_allows (hallows : b.signature.Allows arguments)
    (hp : b.signature.parameters[i]? = some p) (hrecord : ¬ (argument arguments i).IsRecord) :
    b.signature.admitAt arguments i = .ok () := by
  rw [Signature.admitAt_of_getElem? hp]
  rcases hallows.fits i p hp with htype | ⟨hundefined, hoptional⟩
  · have hadmits := ValueKind.admits_of_hasType htype hrecord
    rw [p.admit_of_ne_undefined htype.ne_undefined, kind_eq (List.mem_of_getElem? hp),
      if_pos hadmits]
  · have homit : p.isOmittable = true := by rw [Parameter.isOmittable, hoptional, Bool.true_or]
    rw [hundefined, p.admit_undefined, if_pos homit]

theorem not_isSurplus (hallows : b.signature.Allows arguments) :
    ¬ b.signature.IsSurplus arguments.length :=
  fun hsurplus => Nat.not_lt.mpr hallows.length_le hsurplus.2

/-- **Allowed arguments are admitted**, unless the first one is a record. -/
theorem admit_of_allows (hallows : b.signature.Allows arguments)
    (hrecord : ¬ (argument arguments 0).IsRecord) : b.signature.admit arguments = .ok () := by
  refine Signature.admit_eq_ok_iff.mpr ⟨not_isSurplus hallows, fun i hi => ?_⟩
  rw [Nat.max_eq_left hallows.length_le] at hi
  have hp := List.getElem?_eq_getElem hi
  refine admitAt_of_allows hallows hp ?_
  intro hother
  rcases hallows.fits i _ hp with htype | ⟨hundefined, -⟩
  · obtain ⟨-, rfl⟩ := eq_sumOfSquares hp (htype.eq_arrayLike hother)
    exact hrecord hother
  · obtain ⟨members, hmembers⟩ := hother
    rw [hundefined] at hmembers
    exact absurd hmembers nofun

/-- Values to be summed up are allowed without the number of them. -/
theorem allows_values (hlength : arguments.length ≤ 2)
    (hvalues : (argument arguments 0).HasType "ArrayLike<number>")
    (hcount : argument arguments 1 = .undefined) : sumOfSquares.signature.Allows arguments := by
  have htwo : sumOfSquares.signature.parameters.length = 2 := rfl
  refine ⟨htwo ▸ hlength, fun i p hp => ?_⟩
  obtain ⟨hi, rfl⟩ := List.getElem?_eq_some_iff.mp hp
  rw [htwo] at hi
  rcases i with _ | _ | i
  · exact .inl hvalues
  · exact .inr ⟨hcount, rfl⟩
  · omega

/-- The error of a call with a record for the values. -/
def recordRefused : Value :=
  .error "TypeError" "Argument 'values' of array.sumOfSquares expects number-array, got object" none

/-- **A record is refused**: it can only stand for the values to be summed up. -/
theorem call_record (hallows : b.signature.Allows arguments)
    (hrecord : (argument arguments 0).IsRecord) (world : World) :
    b = sumOfSquares ∧ b.callable.call world arguments = (world, .error recordRefused) := by
  have hparameters : 0 < b.signature.parameters.length := by cases b <;> decide
  have hp := List.getElem?_eq_getElem hparameters
  obtain ⟨members, hmembers⟩ := hrecord
  have htype : (argument arguments 0).HasType (b.signature.parameters[0]).type := by
    refine (hallows.fits 0 _ hp).resolve_right ?_
    rintro ⟨hundefined, -⟩
    rw [hmembers] at hundefined
    exact absurd hundefined nofun
  obtain ⟨rfl, -⟩ := eq_sumOfSquares hp (htype.eq_arrayLike ⟨members, hmembers⟩)
  refine ⟨rfl, ?_⟩
  have hrefused : SquareSum.signature.admitAt arguments 0
      = .error (.wrongKind ⟨"values", "ArrayLike<number>", .numberArray, false, false⟩
          (.record members)) := by
    rw [Signature.admitAt_of_getElem? rfl, hmembers]
    rfl
  rw [Callable.call_of_first_error (i := 0) (Nat.lt_of_lt_of_le hparameters (Nat.le_max_left _ _))
    hrefused (not_isSurplus hallows) nofun]
  rfl

end Builtin

/-! ## Calls through a session -/

namespace Session

variable {host : Host} {b : Builtin} {source module : Text} {arguments : List Value}

/-- A built-in routine is called behind its signature where its library is loaded. -/
theorem perform_execute_builtin {s : Session}
    (hloaded : s.registry.loaded.lookup b.libraryName = some (b.library source module))
    (arguments : List Value) :
    s.perform host (.execute b.libraryName b.signature.name arguments)
      = s.after (b.callable.call s.world arguments) := by
  have hcallable : s.registry.callable b.libraryName b.signature.name = .ok b.callable := by
    simp only [Registry.callable, Registry.library, hloaded, bind, Except.bind]
    exact b.callableIn_library source module
  simp only [perform, hcallable]

/-- **A session is transparent for allowed arguments, records apart.** Where the library of a built-in
routine is loaded, a call through the session does what a direct call of the routine does: it ends with
the same value or the same error, and leaves the same world behind. Only an array-like record is
refused by the check; it can stand for the values to be summed up alone, and the routine is not called
then. -/
theorem execute_builtin (host : Host) (b : Builtin) (source module : Text) (s : Session)
    (hloaded : s.registry.loaded.lookup b.libraryName = some (b.library source module))
    (arguments : List Value) (hallows : b.signature.Allows arguments) :
    (¬ (argument arguments 0).IsRecord →
        s.perform host (.execute b.libraryName b.signature.name arguments)
          = s.after (b.routine.call s.world arguments))
      ∧ ((argument arguments 0).IsRecord →
        b = .sumOfSquares
          ∧ s.perform host (.execute b.libraryName b.signature.name arguments)
            = (s, .error (.error "TypeError"
                "Argument 'values' of array.sumOfSquares expects number-array, got object" none))) := by
  rw [perform_execute_builtin hloaded]
  constructor
  · intro hrecord
    rw [Callable.call_of_admit_ok (Builtin.admit_of_allows hallows hrecord)]
    rfl
  · intro hrecord
    obtain ⟨hb, hrefused⟩ := Builtin.call_record hallows hrecord s.world
    refine ⟨hb, ?_⟩
    rw [hrefused]
    rfl

/-- A session in which the library of a built-in routine was added. -/
def withBuiltin (b : Builtin) : Session :=
  ⟨⟨"/lib", .strict, false, [(b.libraryName, b.library [] [])]⟩, .initial⟩

theorem lookup_withBuiltin (b : Builtin) :
    (withBuiltin b).registry.loaded.lookup b.libraryName = some (b.library [] []) := by
  simp [withBuiltin]

/-- A vector of numbers reaches the sum, with the number of its elements left out. -/
theorem execute_builtin_vector :
    ((withBuiltin .sumOfSquares).registry.loaded.lookup Builtin.sumOfSquares.libraryName
        = some (Builtin.sumOfSquares.library [] []))
      ∧ Builtin.sumOfSquares.signature.Allows [.numberVector .int32 [2, 2], .undefined]
      ∧ (withBuiltin .sumOfSquares).perform (.shelf []) (.execute "array" "sumOfSquares"
          [.numberVector .int32 [2, 2], .undefined])
        = (withBuiltin .sumOfSquares).after
            (SquareSum.routine.call .initial [.numberVector .int32 [2, 2], .undefined]) := by
  have hallows : Builtin.sumOfSquares.signature.Allows [.numberVector .int32 [2, 2], .undefined] :=
    Builtin.allows_values (Nat.le_refl 2) (.vector .int32 [2, 2]) rfl
  refine ⟨lookup_withBuiltin _, hallows, ?_⟩
  exact (execute_builtin (.shelf []) .sumOfSquares [] [] (withBuiltin .sumOfSquares)
    (lookup_withBuiltin _) _ hallows).1 nofun

/-- A record with a length and two numbers at its indices. -/
def recordOfTwo (length first second : Number) : Value :=
  .record [("length", .number length), ("0", .number first), ("1", .number second)]

/-- There is nothing but numbers in it, -/
theorem hasType_recordOfTwo (length first second : Number) :
    (recordOfTwo length first second).HasType "ArrayLike<number>" := by
  refine .record ⟨length, rfl⟩ fun i v hv => ?_
  obtain ⟨before, after, hmembers, -⟩ := List.lookup_eq_some_iff.mp hv
  have hall : ∀ member ∈ [(("length" : Text), Value.number length), ("0", .number first),
      ("1", .number second)], ∃ n, member.2 = .number n := by
    simp only [List.forall_mem_cons]
    exact ⟨⟨_, rfl⟩, ⟨_, rfl⟩, ⟨_, rfl⟩, nofun⟩
  refine hall (Text.ofNat i, v) ?_
  rw [hmembers]
  exact List.mem_append_right _ List.mem_cons_self

/-- and they are at the first two indices. -/
theorem element_recordOfTwo (length first second : Number) :
    (recordOfTwo length first second).element 0 = .number first
      ∧ (recordOfTwo length first second).element 1 = .number second := by
  rw [recordOfTwo, Value.element, Value.element, Text.ofNat_of_lt (by decide),
    Text.ofNat_of_lt (by decide)]
  exact ⟨rfl, rfl⟩

/-- Such a record with two integers. -/
def twoNumbers : Value := recordOfTwo (.ofNat 2) (.ofInt 1) (.ofInt 2)

/-- The sum of the squares of the two. -/
theorem sum_twoNumbers : SquareSum.sum twoNumbers .undefined = .ok 5 := by
  obtain ⟨hzero, hone⟩ := element_recordOfTwo (.ofNat 2) (.ofInt 1) (.ofInt 2)
  have hlength : twoNumbers.length = .number (.ofNat 2) := rfl
  have helements : ∀ j x, ([1, 2] : List Int)[j]? = some x →
      SquareSum.int32? (twoNumbers.element (0 + j)) = some x := by
    intro j x hx
    rw [Nat.zero_add]
    match j with
    | 0 => rw [← Option.some.inj hx, twoNumbers, hzero, SquareSum.int32?_ofInt (by decide)]
    | 1 => rw [← Option.some.inj hx, twoNumbers, hone, SquareSum.int32?_ofInt (by decide)]
    | j + 2 => exact absurd hx nofun
  obtain ⟨total, htotal, hvalue⟩ := SquareSum.sumFrom_eq helements 0
  have hfive : total = 5 := by
    have hsquares : SquareSum.squares [1, 2] = 5 := by decide
    rw [hsquares] at hvalue
    omega
  have hcount : SquareSum.count? twoNumbers.length (.number (.ofNat 2)) = some 2 := by
    rw [hlength, SquareSum.count?_ofNat (Nat.le_refl 2) (by decide)]
  rw [SquareSum.sum_undefined, hlength, SquareSum.sum_of_count? hcount, ← hfive]
  exact htotal

/-- **An array-like record has a sum, but not through a session**: called directly with a record of
two numbers, which the declared types allow, the routine ends with the sum of their squares. -/
theorem record_refused_with_sum :
    Builtin.sumOfSquares.signature.Allows [twoNumbers]
      ∧ (SquareSum.routine.call .initial [twoNumbers]).2 = .ok (.integer 5)
      ∧ ((withBuiltin .sumOfSquares).perform (.shelf []) (.execute "array" "sumOfSquares"
          [twoNumbers])).2
        = .error (.error "TypeError"
            "Argument 'values' of array.sumOfSquares expects number-array, got object" none) := by
  have hallows : Builtin.sumOfSquares.signature.Allows [twoNumbers] :=
    Builtin.allows_values (Nat.le_succ 1) (hasType_recordOfTwo _ _ _) rfl
  refine ⟨hallows, ?_, ?_⟩
  · rw [SquareSum.call_of_sum sum_twoNumbers rfl rfl]
    rfl
  · have hrefused := (Builtin.call_record hallows ⟨_, rfl⟩ .initial).2
    exact congrArg (fun called => ((withBuiltin .sumOfSquares).after called).2)
      hrefused

end Session

end Turnstile
