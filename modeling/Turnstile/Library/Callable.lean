import Turnstile.Routine
import Turnstile.Signature.Admission

/-! # Callables

* **`Export`** is what a module hands out under a name.
* **`Callable`** is a routine of a library behind the signature that the library declares for it.
* **`Callable.call`** holds the arguments against the signature first: a refused call ends with an
  error and leaves the world as it was, any other reaches the routine with the very same arguments.
  -/

namespace Turnstile

/-- What a module hands out under a name. -/
inductive Export where
  | routine (routine : Routine)
  /-- A value that cannot be called. -/
  | constant (value : Value)

/-- A **callable**: a routine, its signature, and the name under which its library was added. -/
structure Callable where
  library : Text
  signature : Signature
  target : Routine

namespace Callable

/-- The name of a callable in messages. -/
def qualifiedName (c : Callable) : Text := c.library ++ "." ++ c.signature.name

/-- The error of a refused call. -/
def refused (c : Callable) (refusal : Refusal) : Value :=
  .error "TypeError" (refusal.message c.qualifiedName) none

/-- **A call**, if the signature admits the arguments. -/
def call (c : Callable) (world : World) (arguments : List Value) : World × Completion :=
  match c.signature.admit arguments with
  | .error refusal => (world, .error (c.refused refusal))
  | .ok () => c.target.call world arguments

/-- **A call whose result is waited for**, with no ending if the result never settles. -/
def callAndWait (c : Callable) (world : World) (arguments : List Value) :
    World × Option Completion :=
  let (world, ending) := c.call world arguments
  (world, Value.settleEnding ending)

end Callable

end Turnstile
