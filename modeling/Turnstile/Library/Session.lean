import Turnstile.Library.Registry

/-! # Sessions with a registry

* **`Session`** is a registry with the world that its callables are called in.
* **`Session.perform`** takes one step and answers it; a step that fails is answered with the value
  that it throws.
* **`Session.run`** takes a list of steps in order. -/

namespace Turnstile

/-- A registry, and the world that its callables are called in. -/
structure Session where
  registry : Registry
  world : World

namespace Session

/-- One thing done in a session. -/
inductive Step where
  | setPath (path : Text)
  | getPath
  | add (library : Text)
  | has (library : Text)
  | functions (library : Text)
  | callable (library function : Text)
  /-- Call a callable that an earlier step answered. -/
  | call (callable : Callable) (arguments : List Value)
  /-- Look a function up and call it. -/
  | execute (library function : Text) (arguments : List Value)
  /-- Look a function up, call it and wait for its result. -/
  | executeAndWait (library function : Text) (arguments : List Value)

/-- The answer to a step that does not fail. -/
inductive Answer where
  | done
  | path (path : Text)
  | flag (b : Bool)
  | signatures (signatures : List Signature)
  | callable (callable : Callable)
  | value (value : Value)

/-- The session with the world after a call, and the answer. -/
def after (s : Session) (called : World × Completion) : Session × Except Value Answer :=
  (⟨s.registry, called.1⟩, called.2.map .value)

/-- The session with the world after a call whose result is waited for, and the answer. A result that
never settles is left as it is: there will never be more to answer. -/
def afterWaiting (s : Session) (called : World × Completion) : Session × Except Value Answer :=
  s.after (called.1, (Value.settleEnding called.2).getD called.2)

/-- **One step**: the session after it, and its answer. -/
def perform (host : Host) (s : Session) : Step → Session × Except Value Answer
  | .setPath path => (⟨s.registry.setPath host path, s.world⟩, .ok .done)
  | .getPath => (s, .ok (.path s.registry.libraryPath))
  | .add library =>
    match s.registry.add host library with
    | .ok registry => (⟨registry, s.world⟩, .ok .done)
    | .error fault => (s, .error fault.toValue)
  | .has library => (s, .ok (.flag (s.registry.has library)))
  | .functions library =>
    match s.registry.functions library with
    | .ok signatures => (s, .ok (.signatures signatures))
    | .error fault => (s, .error fault.toValue)
  | .callable library function =>
    match s.registry.callable library function with
    | .ok c => (s, .ok (.callable c))
    | .error fault => (s, .error fault.toValue)
  | .call c arguments => s.after (c.call s.world arguments)
  | .execute library function arguments =>
    match s.registry.callable library function with
    | .ok c => s.after (c.call s.world arguments)
    | .error fault => (s, .error fault.toValue)
  | .executeAndWait library function arguments =>
    match s.registry.callable library function with
    | .ok c => s.afterWaiting (c.call s.world arguments)
    | .error fault => (s, .error fault.toValue)

/-- The session after a list of steps, and their answers in order. -/
def run (host : Host) (s : Session) : List Step → Session × List (Except Value Answer)
  | [] => (s, [])
  | step :: rest =>
    let (s, answer) := s.perform host step
    let (s, answers) := run host s rest
    (s, answer :: answers)

end Session

end Turnstile
