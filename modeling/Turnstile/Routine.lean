import Turnstile.Memory

/-! # Routines

A **routine** is what a library exports and a caller calls: it takes a list of values and ends with
a value returned or thrown. It sees the **world**, which is a memory and the number of calls made so
far, and may change the memory.

* **`Routine.pure`** makes a routine of a function of the arguments alone.
* **`Routine.call`** calls a routine, and the world counts the call.
* **`argument`** reads an argument by position; one that is missing reads as `undefined`. -/

namespace Turnstile

/-- What routines share: the memory, and how many calls were made. -/
structure World where
  memory : Memory
  calls : Nat

namespace World

/-- The world before anything was called, with a memory of some capacity. -/
def fresh (capacity : Nat) : World := ⟨.fresh capacity, 0⟩

/-- The world before anything was called. -/
def initial : World := ⟨.initial, 0⟩

end World

/-- A **routine**: the memory that it leaves behind and how it ends, from the world and the
arguments. -/
structure Routine where
  act : World → List Value → Memory × Completion

namespace Routine

/-- A routine that only computes. -/
def pure (f : List Value → Completion) : Routine := ⟨fun world args => (world.memory, f args)⟩

/-- A routine that returns what it computes. -/
def returning (f : List Value → Value) : Routine := .pure fun args => .ok (f args)

/-- A routine that returns a text, if the text can be put together. -/
def wording (f : List Value → Except Value Text) : Routine := .pure fun args => (f args).map .text

/-- **A call**: the world after it, and how it ends. -/
def call (r : Routine) (world : World) (args : List Value) : World × Completion :=
  let (memory, ending) := r.act world args
  (⟨memory, world.calls + 1⟩, ending)

end Routine

/-- The argument at a position. -/
def argument (args : List Value) (i : Nat) : Value := (args[i]?).getD .undefined

/-- The argument at a position, or a default where it is `undefined`. -/
def argumentOr (args : List Value) (i : Nat) (default : Value) : Value :=
  match argument args i with
  | .undefined => default
  | v => v

end Turnstile
