import Turnstile.Proofs.Library.Session
import Turnstile.Proofs.Signature.Admission

/-! # Arguments that fit a signature

A call reaches the routine of a callable exactly when its arguments fit the signature. What fits is
said here without the check: by the values of a kind, the arguments that a parameter takes, and the
places of the longer of two lists, that of the parameters and that of the arguments.

* **`ValueKind.Holds`** lists the values of a kind, **`Parameter.Takes`** the arguments of a parameter
  and **`Signature.Fits`** the lists of arguments of a signature.
* **`Signature.Refuses`** says why a list that does not fit is refused.
* **`Signature.admit_eq_ok_iff_fits`** and **`Signature.admit_eq_error_iff_refuses`** hold the check
  against them; **`Callable.reaches_iff_fits`** says what a call makes of it. -/

namespace Turnstile

/-! ## Kinds -/

/-- **The values of a kind.** Anything is void or opaque; an array may lack elements. -/
inductive ValueKind.Holds : ValueKind → Value → Prop where
  | number (n : Number) : Holds .number (.number n)
  | integer (i : Int) : Holds .integer (.integer i)
  | text (t : Text) : Holds .text (.text t)
  | boolean (b : Bool) : Holds .boolean (.boolean b)
  | array {elements : List (Option Value)}
      (numbers : ∀ v, some v ∈ elements → ∃ n, v = .number n) :
    Holds .numberArray (.array elements)
  | vector (format : ElementFormat) (elements : List Number) :
    Holds .numberArray (.numberVector format elements)
  | void (v : Value) : Holds .void v
  | opaqueValue (v : Value) : Holds .opaqueValue v

/-- **The check of a value lets the values of the kind through**, and no other. -/
theorem ValueKind.admits_iff_holds {kind : ValueKind} {v : Value} :
    kind.admits v = true ↔ kind.Holds v := by
  constructor
  · intro h
    unfold admits at h
    -- One case for each row of the check, and the last for every value that no row lets through.
    split at h
    · exact .number _
    · exact .integer _
    · exact .text _
    · exact .boolean _
    · exact .array (allNumbers_iff.mp h)
    · exact .vector _ _
    · exact .void _
    · exact .opaqueValue _
    · exact absurd h Bool.false_ne_true
  · intro h
    cases h with
    | array numbers => exact allNumbers_iff.mpr numbers
    | number | integer | text | boolean | vector | void | opaqueValue => rfl

/-! ## Parameters -/

namespace Parameter

variable {p : Parameter} {v : Value}

/-- **The arguments that a parameter takes**: none, where it is optional or its type has room for that,
and any that is there and of its kind. -/
inductive Takes (p : Parameter) : Value → Prop where
  | omitted (omittable : p.isOptional = true ∨ acceptsUndefined p.type = true) : Takes p .undefined
  | given {v : Value} (there : v ≠ .undefined) (kind : p.kind.Holds v) : Takes p v

theorem takes_undefined_iff :
    p.Takes .undefined ↔ p.isOptional = true ∨ acceptsUndefined p.type = true := by
  constructor
  · intro h
    cases h with
    | omitted omittable => exact omittable
    | given there => exact absurd rfl there
  · exact .omitted

theorem takes_iff_of_ne_undefined (hv : v ≠ .undefined) : p.Takes v ↔ p.kind.Holds v := by
  constructor
  · intro h
    cases h with
    | omitted => exact absurd rfl hv
    | given _ kind => exact kind
  · exact .given hv

/-- The refusal of an argument that a parameter does not take. -/
def misfit (p : Parameter) : (argument : Value) → Refusal
  | .undefined => .missing p
  | argument => .wrongKind p argument

theorem misfit_of_ne_undefined (hv : v ≠ .undefined) : p.misfit v = .wrongKind p v := by
  unfold misfit
  split
  · exact absurd rfl hv
  · rfl

/-- **The check of an argument** lets through what the parameter takes. -/
theorem admit_of_takes (h : p.Takes v) : p.admit v = .ok () := by
  cases h with
  | omitted omittable =>
    have homit : p.isOmittable = true := by
      rw [isOmittable, Bool.or_eq_true]
      exact omittable
    rw [p.admit_undefined, if_pos homit]
  | given there kind => rw [p.admit_of_ne_undefined there, if_pos (ValueKind.admits_iff_holds.mpr kind)]

theorem admit_of_not_takes (h : ¬ p.Takes v) : p.admit v = .error (p.misfit v) := by
  by_cases hv : v = .undefined
  · subst hv
    rw [takes_undefined_iff, ← Bool.or_eq_true] at h
    rw [p.admit_undefined, isOmittable, if_neg h]
    rfl
  · rw [takes_iff_of_ne_undefined hv, ← ValueKind.admits_iff_holds] at h
    rw [p.admit_of_ne_undefined hv, if_neg h, misfit_of_ne_undefined hv]

theorem admit_eq_ok_iff_takes : p.admit v = .ok () ↔ p.Takes v := by
  refine ⟨fun h => ?_, admit_of_takes⟩
  by_contra hnot
  rw [admit_of_not_takes hnot] at h
  exact absurd h nofun

end Parameter

/-! ## Signatures -/

namespace Signature

variable {s : Signature} {arguments : List Value} {i : Nat} {refusal : Refusal}

/-- Whether the last parameter is a rest parameter. -/
def EndsInRest (s : Signature) : Prop := ∃ p, s.parameters.getLast? = some p ∧ p.isRest = true

/-- Whether there is a place for so many arguments. -/
def HasRoom (s : Signature) (given : Nat) : Prop := given ≤ s.parameters.length ∨ s.EndsInRest

/-- Whether the parameter of a place, which beyond the end is the rest parameter, takes the argument. -/
def FitsAt (s : Signature) (arguments : List Value) (i : Nat) : Prop :=
  ∃ p, s.parameterAt? i = some p ∧ p.Takes (argument arguments i)

/-- **The arguments that fit a signature**: there is room for all of them, and at every place of the
longer list the parameter takes the argument. -/
structure Fits (s : Signature) (arguments : List Value) : Prop where
  room : s.HasRoom arguments.length
  places : ∀ i < max s.parameters.length arguments.length, s.FitsAt arguments i

/-- **Why arguments are refused**: for their number, or else for the first place whose parameter does
not take the argument, be it missing or of another kind. -/
inductive Refuses (s : Signature) (arguments : List Value) : Refusal → Prop where
  | surplus (noRoom : ¬ s.HasRoom arguments.length) :
    Refuses s arguments (.surplus s.parameters.length arguments.length)
  | missing {i : Nat} {p : Parameter} (room : s.HasRoom arguments.length)
      (inside : i < max s.parameters.length arguments.length) (place : s.parameterAt? i = some p)
      (front : ∀ j < i, s.FitsAt arguments j) (absent : argument arguments i = .undefined)
      (needed : ¬ p.Takes .undefined) :
    Refuses s arguments (.missing p)
  | wrongKind {i : Nat} {p : Parameter} (room : s.HasRoom arguments.length)
      (inside : i < max s.parameters.length arguments.length) (place : s.parameterAt? i = some p)
      (front : ∀ j < i, s.FitsAt arguments j) (there : argument arguments i ≠ .undefined)
      (other : ¬ p.Takes (argument arguments i)) :
    Refuses s arguments (.wrongKind p (argument arguments i))

theorem rest?_eq_some_iff {p : Parameter} :
    s.rest? = some p ↔ s.parameters.getLast? = some p ∧ p.isRest = true := by
  rw [rest?]
  cases s.parameters.getLast? with
  | none => exact ⟨nofun, fun h => absurd h.1 nofun⟩
  | some last =>
    by_cases hrest : last.isRest = true
    · simp only [hrest, if_true, Option.some.injEq]
      constructor
      · rintro rfl
        exact ⟨rfl, hrest⟩
      · exact And.left
    · simp only [hrest, Option.some.injEq]
      constructor
      · exact nofun
      · rintro ⟨rfl, h⟩
        exact absurd h hrest

/-- Without a rest parameter in last place the parameters are all there is room for. -/
theorem isSurplus_iff_not_hasRoom {given : Nat} : s.IsSurplus given ↔ ¬ s.HasRoom given := by
  have hrest : s.rest? = none ↔ ¬ s.EndsInRest := by
    rw [Option.eq_none_iff_forall_ne_some, EndsInRest, not_exists]
    exact forall_congr' fun p => rest?_eq_some_iff.not
  rw [IsSurplus, HasRoom, hrest, not_or, Nat.not_le, and_comm]

/-- Where there is room, every place has a parameter. -/
theorem exists_parameterAt? (hroom : s.HasRoom arguments.length)
    (hi : i < max s.parameters.length arguments.length) : ∃ p, s.parameterAt? i = some p := by
  rw [parameterAt?_eq]
  by_cases hinside : i < s.parameters.length
  · exact ⟨s.parameters[i], by rw [List.getElem?_eq_getElem hinside, Option.some_or]⟩
  · -- Beyond the parameters there is room only because the last of them is a rest parameter.
    have hlong : ¬ arguments.length ≤ s.parameters.length := by omega
    obtain ⟨p, hp⟩ := hroom.resolve_left hlong
    refine ⟨p, ?_⟩
    rw [List.getElem?_eq_none (Nat.le_of_not_lt hinside), Option.none_or, rest?_eq_some_iff.mpr hp]

/-- **At a place the check lets through what fits.** -/
theorem admitAt_eq_ok_iff_fitsAt (hroom : s.HasRoom arguments.length)
    (hi : i < max s.parameters.length arguments.length) :
    s.admitAt arguments i = .ok () ↔ s.FitsAt arguments i := by
  obtain ⟨p, hp⟩ := exists_parameterAt? hroom hi
  rw [admitAt, FitsAt, hp, admitPlace, Parameter.admit_eq_ok_iff_takes]
  simp only [Option.some.injEq, exists_eq_left']

/-- **A signature admits the arguments that fit it**, and no others. -/
theorem admit_eq_ok_iff_fits : s.admit arguments = .ok () ↔ s.Fits arguments := by
  rw [admit_eq_ok_iff, isSurplus_iff_not_hasRoom, not_not]
  constructor
  · rintro ⟨hroom, hplaces⟩
    exact ⟨hroom, fun i hi => (admitAt_eq_ok_iff_fitsAt hroom hi).mp (hplaces i hi)⟩
  · rintro ⟨hroom, hplaces⟩
    exact ⟨hroom, fun i hi => (admitAt_eq_ok_iff_fitsAt hroom hi).mpr (hplaces i hi)⟩

/-- A place at which the argument does not fit, behind places at which they do. -/
theorem admit_of_first_misfit {p : Parameter} (hroom : s.HasRoom arguments.length)
    (hi : i < max s.parameters.length arguments.length) (hp : s.parameterAt? i = some p)
    (hfront : ∀ j < i, s.FitsAt arguments j) (hnot : ¬ p.Takes (argument arguments i)) :
    s.admit arguments = .error (p.misfit (argument arguments i)) := by
  have hsurplus : ¬ s.IsSurplus arguments.length := by
    rw [isSurplus_iff_not_hasRoom, not_not]
    exact hroom
  refine (admit_eq_error_iff hsurplus).mpr ⟨i, hi, ?_, fun j hj => ?_⟩
  · rw [admitAt, hp, admitPlace, Parameter.admit_of_not_takes hnot]
  · exact (admitAt_eq_ok_iff_fitsAt hroom (Nat.lt_trans hj hi)).mpr (hfront j hj)

/-- **Any other arguments it refuses for the reason that comes first.** -/
theorem admit_of_refuses (h : s.Refuses arguments refusal) : s.admit arguments = .error refusal := by
  cases h with
  | surplus noRoom => exact admit_of_isSurplus (isSurplus_iff_not_hasRoom.mpr noRoom)
  | missing room inside place front absent needed =>
    rw [admit_of_first_misfit room inside place front (by rwa [absent]), absent]
    rfl
  | wrongKind room inside place front there other =>
    rw [admit_of_first_misfit room inside place front other, Parameter.misfit_of_ne_undefined there]

theorem refuses_of_error (h : s.admit arguments = .error refusal) : s.Refuses arguments refusal := by
  by_cases hroom : s.HasRoom arguments.length
  · have hsurplus : ¬ s.IsSurplus arguments.length := by
      rw [isSurplus_iff_not_hasRoom, not_not]
      exact hroom
    -- The check stops at the first place that does not fit. Whether anything was given there tells
    -- the two reasons apart.
    obtain ⟨i, hi, hat, hfront⟩ := (admit_eq_error_iff hsurplus).mp h
    have hfits : ∀ j < i, s.FitsAt arguments j := fun j hj =>
      (admitAt_eq_ok_iff_fitsAt hroom (Nat.lt_trans hj hi)).mp (hfront j hj)
    obtain ⟨p, hp⟩ := exists_parameterAt? hroom hi
    have hnot : ¬ p.Takes (argument arguments i) := by
      intro htakes
      rw [admitAt, hp, admitPlace, Parameter.admit_of_takes htakes] at hat
      cases hat
    rw [admitAt, hp, admitPlace, Parameter.admit_of_not_takes hnot] at hat
    obtain rfl := Except.error.inj hat
    by_cases hundefined : argument arguments i = .undefined
    · rw [hundefined] at hnot ⊢
      exact .missing hroom hi hp hfits hundefined hnot
    · rw [Parameter.misfit_of_ne_undefined hundefined]
      exact .wrongKind hroom hi hp hfits hundefined hnot
  · rw [admit_of_isSurplus (isSurplus_iff_not_hasRoom.mpr hroom)] at h
    rw [← Except.error.inj h]
    exact .surplus hroom

theorem admit_eq_error_iff_refuses :
    s.admit arguments = .error refusal ↔ s.Refuses arguments refusal :=
  ⟨refuses_of_error, admit_of_refuses⟩

/-- What does not fit is refused, and for one reason only. -/
theorem exists_refuses (h : ¬ s.Fits arguments) :
    ∃ refusal, s.Refuses arguments refusal
      ∧ ∀ other, s.Refuses arguments other → other = refusal := by
  cases hadmit : s.admit arguments with
  | ok => exact absurd (admit_eq_ok_iff_fits.mp hadmit) h
  | error refusal =>
    refine ⟨refusal, refuses_of_error hadmit, fun other hother => ?_⟩
    rw [admit_of_refuses hother] at hadmit
    exact Except.error.inj hadmit

end Signature

/-! ## Calls -/

/-- A callable of a registry goes by the names that it was asked for. -/
theorem Registry.qualifiedName_of_callable {r : Registry} {lib name : Text} {c : Callable}
    (h : r.callable lib name = .ok c) : c.qualifiedName = lib ++ "." ++ name := by
  rw [Registry.callable] at h
  cases hlibrary : r.library lib with
  | error fault =>
    rw [hlibrary] at h
    cases h
  | ok library =>
    rw [hlibrary] at h
    obtain ⟨hlib, hfound, -⟩ := Registry.callableIn_eq_ok_iff.mp h
    have hname : c.signature.name = name := by simpa using List.find?_some hfound
    rw [Callable.qualifiedName, hlib, hname]

/-- **A call reaches the routine exactly when the arguments fit the signature.** It then reaches it
once, with the very same list of arguments, and ends as the routine does. Otherwise it leaves the world
as it was and ends with the error of the one reason to refuse them: their number if there are too many,
else the first place that does not fit, which is named as missing or as of another kind. In a session
this is what becomes of every function of a library that is loaded. -/
theorem Callable.reaches_iff_fits (c : Callable) (arguments : List Value) (world : World) :
    ((c.call world arguments).1.calls = world.calls + 1 ↔ c.signature.Fits arguments)
      ∧ (c.signature.Fits arguments →
          c.call world arguments
            = (⟨(c.target.act world arguments).1, world.calls + 1⟩,
                (c.target.act world arguments).2))
      ∧ (¬ c.signature.Fits arguments →
          ∃ refusal, c.signature.Refuses arguments refusal
            ∧ (∀ other, c.signature.Refuses arguments other → other = refusal)
            ∧ c.call world arguments
              = (world, .error (.error "TypeError" (refusal.message c.qualifiedName) none)))
      ∧ ∀ (host : Host) (s : Session) (lib name : Text), s.registry.callable lib name = .ok c →
          c.qualifiedName = lib ++ "." ++ name
            ∧ s.perform host (.execute lib name arguments)
              = s.after (c.call s.world arguments) := by
  have hfits : c.signature.Fits arguments → c.call world arguments
      = (⟨(c.target.act world arguments).1, world.calls + 1⟩, (c.target.act world arguments).2) :=
    fun h => call_of_admit_ok (Signature.admit_eq_ok_iff_fits.mpr h) world
  have hrefused : ∀ refusal, c.signature.Refuses arguments refusal → c.call world arguments
      = (world, .error (.error "TypeError" (refusal.message c.qualifiedName) none)) :=
    fun refusal h => call_of_admit_error (Signature.admit_of_refuses h) world
  refine ⟨⟨fun hcalls => ?_, fun h => ?_⟩, hfits, fun h => ?_, fun host s lib name hc => ?_⟩
  · -- A refusal leaves the world alone, so the count of calls would not have moved.
    by_contra hnot
    obtain ⟨refusal, hrefuses, -⟩ := Signature.exists_refuses hnot
    rw [hrefused refusal hrefuses] at hcalls
    exact absurd hcalls (Nat.ne_of_lt (Nat.lt_succ_self _))
  · rw [hfits h]
  · obtain ⟨refusal, hrefuses, hunique⟩ := Signature.exists_refuses h
    exact ⟨refusal, hrefuses, hunique, hrefused refusal hrefuses⟩
  · refine ⟨Registry.qualifiedName_of_callable hc, ?_⟩
    simp only [Session.perform, hc]

end Turnstile
