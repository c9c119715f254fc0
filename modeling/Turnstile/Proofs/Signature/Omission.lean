import Turnstile.Proofs.Signature.Admission
import Turnstile.Proofs.Source.ElementTypes
import Turnstile.Source.Described

/-! # Arguments that are left out

Which parameters of a basic type let an argument be left out.

* **`acceptsUndefined_toText`** compares what the text of a type says with the type: it says more for
  the types of `SourceType.MisleadsOnUndefined`.
* **`FormalType.describe_type`**: the type of a parameter is described by the text of its declared
  type, with the unions in some order.
* **`Callable.call_omitted`** is what a call makes of an argument that is missing or `undefined`. -/

namespace Turnstile

open Source

namespace Source.SourceType

variable {type : SourceType}

/-! ## Types of anything -/

/-- A text with a unit in it that is no letter is not one of the words for anything. -/
theorem ne_anything_of_mem {t : Text} {u : UInt16} (hu : u ∈ t) (hletter : Text.isLetter u = false) :
    ¬ (t = "unknown" ∨ t = "any") := by
  have hunknown : ("unknown" : Text).all Text.isLetter = true := by decide
  have hany : ("any" : Text).all Text.isLetter = true := by decide
  rintro (rfl | rfl)
  · exact absurd (List.all_eq_true.mp hunknown u hu) (by simp [hletter])
  · exact absurd (List.all_eq_true.mp hany u hu) (by simp [hletter])

theorem reference_ne_anything {name : Text} {arguments : List SourceType}
    (hname : isReferenceName name = true)
    (htext : type.toText = name ++ bracketed (textsOf false 0 arguments)) :
    ¬ (type.toText = "unknown" ∨ type.toText = "any") := by
  obtain ⟨-, -, hunknown, hany⟩ := isReferenceName_iff.mp hname
  cases arguments with
  | nil =>
    have hplain : type.toText = name := htext.trans (List.append_nil name)
    rw [hplain]
    exact not_or.mpr ⟨hunknown, hany⟩
  | cons first rest =>
    have hopen : Text.unit '<' ∈ ("<" : Text) := by decide
    have hmem : Text.unit '<' ∈ type.toText := by
      rw [htext, textsOf, bracketed]
      simp [hopen]
    exact ne_anything_of_mem hmem (by decide)

theorem callable_ne_anything {calls : List CallType} (h : (callable calls).hasBasicShape = true) :
    ¬ ((callable calls).toText = "unknown" ∨ (callable calls).toText = "any") := by
  by_cases hsingle : ∃ c, calls = [c]
  · obtain ⟨c, rfl⟩ := hsingle
    have hgives : c.givesType = true := List.all_eq_true.mp h c (List.mem_singleton_self c)
    exact ne_anything_of_mem (open_mem_function hgives) (by decide)
  · exact ne_anything_of_mem (brace_mem_overloads fun c hc => hsingle ⟨c, hc⟩) (by decide)

/-- **Only the types of anything are written by the words for them.** -/
theorem toText_eq_anything_iff (h : type.IsBasic) :
    type.toText = "unknown" ∨ type.toText = "any" ↔ type = .unknown ∨ type = .any := by
  obtain ⟨shape, -⟩ := h
  constructor
  · intro htext
    cases type with
    | any => exact .inr rfl
    | unknown => exact .inl rfl
    | never | void | undefined | null | string | number | integer | boolean | symbol | object =>
      exact absurd htext (by decide)
    | literal value isFresh =>
      cases value with
      | text value =>
        have hmem : Text.unit '"' ∈ (literal (.text value) isFresh).toText := List.mem_cons_self
        exact absurd htext (ne_anything_of_mem hmem (by decide))
      | boolean value => cases value <;> cases isFresh <;> exact absurd htext (by decide)
      | number | integer => exact absurd shape Bool.noConfusion
    | array isReadonly element =>
      have hmem : Text.unit ']' ∈ (array isReadonly element).toText := by
        rw [toText, textOf]
        exact List.mem_append_right _ (by decide)
      exact absurd htext (ne_anything_of_mem hmem (by decide))
    | callable calls => exact absurd htext (callable_ne_anything shape)
    | record members =>
      exact absurd htext (ne_anything_of_mem (brace_mem_record members) (by decide))
    | union members shown => exact absurd htext (ne_anything_of_mem (bar_mem_union shape) (by decide))
    | named home name arguments =>
      exact absurd htext (reference_ne_anything shape (named_toText home name arguments))
    | «alias» home name arguments meaning => exact absurd htext (reference_ne_anything shape rfl)
    | unresolved name arguments => exact absurd htext (reference_ne_anything shape rfl)
    | parameter home name bound => exact absurd htext (@reference_ne_anything _ name [] shape rfl)
    | enumeration home name members =>
      exact absurd htext (@reference_ne_anything _ name [] shape rfl)
    | _ => exact absurd shape Bool.noConfusion
  · rintro (rfl | rfl)
    · exact .inl rfl
    · exact .inr rfl

/-! ## Types and their texts -/

/-- **Types whose text promises too much**: functions with a result whose text ends in a bar and
`undefined`, and types that quote `undefined` between bars. -/
def MisleadsOnUndefined (type : SourceType) : Prop :=
  (∃ c, type = .callable [c] ∧ c.result.EndsInUndefined) ∨ type.QuotesUndefined

theorem takesUndefined_iff :
    type.takesUndefined = true
      ↔ (type = .unknown ∨ type = .any) ∨ type = .undefined
        ∨ ∃ members shown, type = .union members shown ∧ .undefined ∈ shown := by
  have hany (shown : List SourceType) : shown.any isUndefined = true ↔ .undefined ∈ shown := by
    simp [isUndefined_iff]
  cases type <;> simp [takesUndefined, hany]

/-- What ends in a bar and `undefined` is a union or a function. -/
theorem endsInUndefined_iff :
    type.EndsInUndefined
      ↔ (∃ members shown, type = .union members shown ∧ .undefined ∈ shown)
        ∨ ∃ c, type = .callable [c] ∧ c.result.EndsInUndefined := by
  constructor
  · rintro (h | h)
    · exact .inl ⟨_, _, rfl, h⟩
    · exact .inr ⟨_, rfl, h⟩
  · rintro (⟨members, shown, rfl, h⟩ | ⟨c, rfl, h⟩)
    · exact .union h
    · exact .result h

end Source.SourceType

/-- **What the text of a basic type says about `undefined`**: what the type says, and more for the
types whose text promises too much. -/
theorem acceptsUndefined_toText {type : SourceType} (h : type.IsBasic) :
    acceptsUndefined type.toText = true
      ↔ type.takesUndefined = true ∨ type.MisleadsOnUndefined := by
  have hparts : acceptsUndefined type.toText = true
      ↔ (type.toText = "unknown" ∨ type.toText = "any")
        ∨ Text.ShowsUndefined true true type.toText := by
    simp [acceptsUndefined, Text.ShowsUndefined, Text.partsIn, Text.bar]
  rw [hparts, SourceType.toText_eq_anything_iff h, SourceType.tellsText_of_isBasic h true true,
    SourceType.ShowsUndefined, SourceType.endsInUndefined_iff, SourceType.takesUndefined_iff,
    SourceType.MisleadsOnUndefined]
  simp only [true_and, or_assoc, or_comm, or_left_comm]

/-- The type of a parameter is described by the text of its declared type, with the unions in some
order; the text is that of a basic type if the declared type is one. -/
theorem Source.FormalType.describe_type (formal : FormalType) (place : Nat) (order : List Text)
    (hbasic : formal.declared.IsBasic) :
    ∃ type : SourceType, type.IsBasic ∧ (∃ order, type = formal.declared.arranged order)
      ∧ ((formal.describe false place).run order).1.type = type.toText :=
  ⟨_, SourceType.isBasic_arranged hbasic, ⟨_, rfl⟩, rfl⟩

/-! ## Calls -/

/-- A parameter of a basic type that is not optional lets its argument be left out if the text of
the type says so. -/
theorem Parameter.admit_undefined_eq_ok_iff {p : Parameter} {type : SourceType}
    (hbasic : type.IsBasic) (htext : p.type = type.toText) (hoptional : p.isOptional = false) :
    p.admit .undefined = .ok () ↔ type.takesUndefined = true ∨ type.MisleadsOnUndefined := by
  have hadmits : p.admit .undefined = .ok () ↔ p.isOmittable = true := by
    rw [p.admit_undefined]
    split
    · next h => exact iff_of_true rfl h
    · next h => exact iff_of_false nofun h
  rw [hadmits, Parameter.isOmittable, hoptional, htext, Bool.false_or,
    acceptsUndefined_toText hbasic]

namespace Callable

/-- **A call without an argument** for a parameter of a basic type that is not optional. The check
lets the argument be left out exactly if the type takes `undefined` or its text promises too much.
If it does not, the routine is not reached, and the parameter is named unless there are too many
arguments or one in front is refused. If it does, the routine is reached with the arguments as they
are, unless they are refused elsewhere. -/
theorem call_omitted (c : Callable) (i : Nat) (p : Parameter) (type : SourceType)
    (hplace : c.signature.parameters[i]? = some p) (hbasic : type.IsBasic)
    (htext : p.type = type.toText) (hoptional : p.isOptional = false) :
    (type.takesUndefined = true ∨ type.MisleadsOnUndefined ↔ p.admit .undefined = .ok ())
      ∧ ∀ arguments, argument arguments i = .undefined → ∀ world,
        (¬ (type.takesUndefined = true ∨ type.MisleadsOnUndefined) →
          (∃ refusal, c.call world arguments = (world, .error (c.refused refusal)))
          ∧ (¬ c.signature.IsSurplus arguments.length →
              (∀ j < i, c.signature.admitAt arguments j = .ok ()) →
              c.call world arguments
                = (world, .error (.error "TypeError"
                    (.text (c.qualifiedName ++ ": missing argument '" ++ p.name ++ "'")) none))))
        ∧ (type.takesUndefined = true ∨ type.MisleadsOnUndefined →
            ¬ c.signature.IsSurplus arguments.length →
            (∀ j < max c.signature.parameters.length arguments.length, j ≠ i →
              c.signature.admitAt arguments j = .ok ()) →
            c.call world arguments = c.target.call world arguments) := by
  have haccepts := Parameter.admit_undefined_eq_ok_iff hbasic htext hoptional
  have hshort : i < c.signature.parameters.length := (List.getElem?_eq_some_iff.mp hplace).1
  refine ⟨haccepts.symm, fun arguments hmissing world => ⟨fun hrefused => ?_, ?_⟩⟩
  · have hi : i < max c.signature.parameters.length arguments.length :=
      Nat.lt_of_lt_of_le hshort (Nat.le_max_left _ _)
    have hat : c.signature.admitAt arguments i = .error (.missing p) := by
      rw [Signature.admitAt_of_getElem? hplace, hmissing]
      have hnot := haccepts.not.mpr hrefused
      rw [p.admit_undefined] at hnot ⊢
      exact if_neg fun h => hnot (if_pos h)
    exact ⟨call_of_admitAt_error hi hat world,
      fun hfits hfront => call_of_first_error hi hat hfits hfront world⟩
  · intro hlet hfits hothers
    refine call_of_admit_ok (Signature.admit_eq_ok_iff.mpr ⟨hfits, fun j hj => ?_⟩) world
    obtain rfl | hother := eq_or_ne j i
    · rw [Signature.admitAt_of_getElem? hplace, hmissing]
      exact haccepts.mpr hlet
    · exact hothers j hj hother

/-- The type of a function that gives a text or nothing: `() => string | undefined`. -/
def taskType : SourceType :=
  .callable [⟨[], none, [], .union [.string, .undefined] [.string, .undefined], none, false⟩]

/-- The type of a map to numbers or nothing: `Map<string, number | undefined>`. -/
def logType : SourceType :=
  .standard "Map" [.string, .union [.number, .undefined] [.number, .undefined]]

/-- A function that asks for a task and a log and gives its arguments back. -/
def runner : Callable where
  library := "jobs"
  signature :=
    ⟨"run", [⟨"task", taskType.toText, .opaqueValue, false, false⟩,
      ⟨"log", logType.toText, .opaqueValue, false, false⟩], "unknown[]", .opaqueValue⟩
  target := .returning fun arguments => .array (arguments.map some)

theorem isBasic_taskType : taskType.IsBasic := by
  refine .intro rfl fun union hunion => ?_
  rw [List.mem_singleton.mp hunion]
  refine .intro rfl fun part hpart => ?_
  simp only [SourceType.parts, List.mem_cons, List.not_mem_nil, or_false] at hpart
  rcases hpart with rfl | rfl <;> exact .intro rfl fun _ hnone => absurd hnone List.not_mem_nil

theorem misleadsOnUndefined_taskType : taskType.MisleadsOnUndefined :=
  .inl ⟨_, rfl, .union (List.mem_cons_of_mem _ (List.mem_singleton_self _))⟩

/-- The types in the text of the log's type, and nothing quoted. -/
theorem logType_rec {P : SourceType → Prop}
    (step : ∀ type, type.hasBasicShape = true → type.words = [] → (∀ part ∈ type.parts, P part) →
      P type) : P logType := by
  refine step logType (by decide) rfl fun argument hargument => ?_
  simp only [logType, SourceType.standard, SourceType.parts, List.mem_cons, List.not_mem_nil,
    or_false] at hargument
  obtain rfl | rfl := hargument
  · exact step _ rfl rfl fun _ hnone => absurd hnone List.not_mem_nil
  · refine step _ rfl rfl fun part hpart => ?_
    simp only [SourceType.parts, List.mem_cons, List.not_mem_nil, or_false] at hpart
    rcases hpart with rfl | rfl <;>
      exact step _ rfl rfl fun _ hnone => absurd hnone List.not_mem_nil

theorem isBasic_logType : logType.IsBasic := logType_rec fun _ shape _ parts => .intro shape parts

theorem not_misleadsOnUndefined_logType : ¬ logType.MisleadsOnUndefined := by
  have hquotes : ¬ logType.QuotesUndefined :=
    logType_rec (P := fun type => ¬ type.QuotesUndefined) fun _ _ => SourceType.not_quotesUndefined
  exact not_or.mpr ⟨fun ⟨_, hc, _⟩ => absurd hc nofun, hquotes⟩

/-- The log is given, and of any kind. -/
theorem runner_admitAt_log : runner.signature.admitAt [.undefined, .text "log"] 1 = .ok () := rfl

/-- The log cannot be left out, and the task can: one has `undefined` in a type argument, the other
in the result of a function. -/
theorem call_omitted_runner :
    runner.call .initial [.text "now"]
        = (.initial, .error (.error "TypeError" "jobs.run: missing argument 'log'" none))
      ∧ runner.call .initial [.undefined, .text "log"]
          = runner.target.call .initial [.undefined, .text "log"] := by
  have hlog : ¬ (logType.takesUndefined = true ∨ logType.MisleadsOnUndefined) :=
    not_or.mpr ⟨by decide, not_misleadsOnUndefined_logType⟩
  obtain ⟨-, hwithoutLog⟩ := call_omitted runner 1 _ logType rfl isBasic_logType rfl rfl
  obtain ⟨-, hwithoutTask⟩ := call_omitted runner 0 _ taskType rfl isBasic_taskType rfl rfl
  constructor
  · refine ((hwithoutLog [.text "now"] rfl .initial).1 hlog).2 (by decide) fun j hj => ?_
    rw [Nat.lt_one_iff.mp hj]
    rfl
  · refine (hwithoutTask [.undefined, .text "log"] rfl .initial).2
      (.inr misleadsOnUndefined_taskType) (by decide) fun j hj hother => ?_
    obtain rfl : j = 1 := Nat.le_antisymm (Nat.le_of_lt_succ hj) (Nat.pos_of_ne_zero hother)
    exact runner_admitAt_log

/-- **The task can be left out** although its type does not take `undefined`: the result of the
function does, and is written last. -/
theorem call_without_task :
    taskType.IsBasic ∧ taskType.takesUndefined = false
      ∧ taskType.toText = "() => string | undefined"
      ∧ runner.signature.parameters[0]?
          = some ⟨"task", taskType.toText, .opaqueValue, false, false⟩
      ∧ runner.call .initial [.undefined, .text "log"]
          = runner.target.call .initial [.undefined, .text "log"] := by
  refine ⟨isBasic_taskType, rfl, rfl, rfl, ?_⟩
  refine call_of_admit_ok (Signature.admit_eq_ok_iff.mpr ⟨by decide, fun j hj => ?_⟩) _
  obtain rfl | hother := Nat.eq_zero_or_pos j
  · rw [Signature.admitAt_of_getElem? rfl]
    exact (Parameter.admit_undefined_eq_ok_iff isBasic_taskType rfl rfl).mpr
      (.inr misleadsOnUndefined_taskType)
  · obtain rfl : j = 1 := Nat.le_antisymm (Nat.le_of_lt_succ hj) hother
    exact runner_admitAt_log

end Callable

end Turnstile
