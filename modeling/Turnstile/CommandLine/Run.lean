import Turnstile.CommandLine.Argument
import Turnstile.CommandLine.Invocation
import Turnstile.CommandLine.Usage
import Turnstile.Library.Registry
import Turnstile.Value.Display

/-! # Runs of the command line

* **`Task.prepare`** reads the arguments, adds the library and finds out what there is to call.
* **`Run.next`** makes one call and writes its result; a profiled function is called again until the
  number of repetitions is reached.
* **`Run.caught`** is what a run does with a value that is thrown: it writes a line on the error
  channel, unless the value has no text.
* **`Run.complete`** follows a run for at most as many calls as given. -/

namespace Turnstile

/-- A line that a run writes. -/
inductive Line where
  | output (text : Text)
  /-- A line that ends with the time that the call took. -/
  | timed (text : Text)
  /-- A line on the error channel. -/
  | fault (text : Text)
  deriving DecidableEq, Repr

/-- The text of a line, given the text of the time that the call before it took. -/
def Line.toText (elapsed : Text) : Line → Text
  | .output text => text
  | .timed text => text ++ " (" ++ elapsed ++ " ms)"
  | .fault text => text

/-- The line for a value that was thrown, given what that says. -/
def Line.ofComplaint (complaint : Text) : Line := .fault ("Error: " ++ complaint)

/-- The error value of a fault that has only a message. -/
def plainError (message : Text) : Value := .error "Error" message none

/-! ## What there is to do -/

namespace Invocation

/-- A member of an object that is left out where there is no value. -/
def optionalMember (name : Text) : Option Text → List (Text × Json)
  | some t => [(name, .text t)]
  | none => []

/-- An invocation as JSON. -/
def toJson (i : Invocation) : Json :=
  .object ([(Text.ofString "libraryPath", Json.text i.libraryPath)]
    ++ optionalMember "tsconfigPath" i.settingsPath
    ++ [(Text.ofString "library", .text i.library)]
    ++ optionalMember "functionName" i.function
    ++ [(Text.ofString "args", .array (i.arguments.map .text)),
        (Text.ofString "list", .boolean i.list),
        (Text.ofString "profile", .boolean i.profile),
        (Text.ofString "repeat", .number i.repetitions),
        (Text.ofString "skipCheck", .boolean i.skipCheck),
        (Text.ofString "verbose", .boolean i.verbose),
        (Text.ofString "help", .boolean i.help)])

/-- The line about the invocation, for those who want to know. -/
def configurationLines (i : Invocation) : List Line :=
  if i.verbose then [.output ("Configuration: " ++ i.toJson.renderIndented 0)] else []

/-- The line about the library, for those who want to know. -/
def loadedLines (i : Invocation) (r : Registry) : List Line :=
  if i.verbose then [.output ("Loaded library '" ++ i.library ++ "' from " ++ r.libraryPath)] else []

/-- The registry with the library that is asked for. -/
def registry (host : Host) (i : Invocation) : Except Value Registry :=
  match Registry.opened host (some i.libraryPath) i.settingsPath i.skipCheck with
  | .error fault => .error (plainError fault.message)
  | .ok r =>
    match r.add host i.library with
    | .error fault => .error fault.toValue
    | .ok r => .ok r

end Invocation

/-- What a run has left to do. -/
inductive Task where
  | nothing
  /-- Call a function and print its result. -/
  | call (callable : Callable) (arguments : List Value)
  /-- Call a function again and again: as often as is left of the repetitions after those made. -/
  | profile (callable : Callable) (arguments : List Value) (made repetitions : Number)

namespace Task

/-- What there is to do with a library: list its functions, or call one of them. -/
def ofInvocation (i : Invocation) (r : Registry) : Except Value (List Line × Task) :=
  if i.list || !Invocation.isGiven i.function then
    match r.functions i.library with
    | .error fault => .error fault.toValue
    | .ok signatures => .ok (signatures.map fun s => .output s.toText, .nothing)
  else
    match r.callable i.library (i.function.getD []) with
    | .error fault => .error fault.toValue
    | .ok callable =>
      match callable.signature.readArguments i.arguments with
      | .error fault => .error (plainError fault.message)
      | .ok arguments =>
        .ok ([], if i.profile then .profile callable arguments (.zero false) i.repetitions
          else .call callable arguments)

/-- **What the arguments of a command line ask for**, with the lines that are written before
anything is called. -/
def prepare (host : Host) (arguments : List Text) : List Line × Except Value Task :=
  match Invocation.parse host.directory host.builtinPath arguments with
  | .error fault => ([], .error (plainError fault.message))
  | .ok i =>
    if i.help then ([.output usage], .ok .nothing)
    else
      match i.registry host with
      | .error thrown => (i.configurationLines, .error thrown)
      | .ok r =>
        match ofInvocation i r with
        | .error thrown => (i.configurationLines ++ i.loadedLines r, .error thrown)
        | .ok (lines, task) => (i.configurationLines ++ i.loadedLines r ++ lines, .ok task)

end Task

/-! ## Calls -/

/-- A result given back: an owned string that has not been released is. -/
def releaseResult (m : Memory) : Value → Memory × Except Value Unit
  | .owned string =>
    if (m.string string).released then (m, .ok ())
    else
      let (m, released) := m.releaseString string
      (m, released.mapError MemoryFault.toValue)
  | _ => (m, .ok ())

/-- **A call whose result is printed and then given back.** The line is there as soon as the result
has a text, even if giving it back fails. There is no ending if the result never settles. -/
def Callable.present (c : Callable) (world : World) (arguments : List Value) (line : Text → Line) :
    World × List Line × Option (Except Value Unit) :=
  match c.callAndWait world arguments with
  | (world, none) => (world, [], none)
  | (world, some (.error thrown)) => (world, [], some (.error thrown))
  | (world, some (.ok result)) =>
    match result.display world.memory with
    | .error fault => (world, [], some (.error fault.toValue))
    | .ok text =>
      let (memory, released) := releaseResult world.memory result
      (⟨memory, world.calls⟩, [line text], some released)

/-! ## Runs -/

/-- How a run ends. -/
inductive Ending where
  | exited (code : Nat)
  /-- With a value that the run throws itself: the one that it caught has no text. -/
  | threw (thrown : Value)
  /-- With a wait for a result that never settles. -/
  | waiting

/-- A **run**: the world, and what is left to do or how it ended. -/
structure Run where
  world : World
  state : Task ⊕ Ending

namespace Run

/-- **What becomes of a thrown value**: a line on the error channel and code `1`. A value without a
text has the next one thrown, and then there is no line. -/
def caught (thrown : Value) : List Line × Ending :=
  match thrown.complaint with
  | .ok complaint => ([.ofComplaint complaint], .exited 1)
  | .error next => ([], .threw next)

/-- The end of a run in which a value was thrown, behind the lines written so far. -/
def failed (world : World) (lines : List Line) (thrown : Value) : List Line × Run :=
  (lines ++ (caught thrown).1, ⟨world, .inr (caught thrown).2⟩)

/-- The start of a run, and what it writes at once. -/
def start (host : Host) (world : World) (arguments : List Text) : List Line × Run :=
  match Task.prepare host arguments with
  | (lines, .ok task) => (lines, ⟨world, .inl task⟩)
  | (lines, .error thrown) => failed world lines thrown

/-- The run after a call was presented, and what is written. -/
def after (presented : World × List Line × Option (Except Value Unit)) (left : Task) :
    List Line × Run :=
  match presented with
  | (world, lines, some (.ok ())) => (lines, ⟨world, .inl left⟩)
  | (world, lines, some (.error thrown)) => failed world lines thrown
  | (world, lines, none) => (lines, ⟨world, .inr .waiting⟩)

/-- The beginning of the line for a profiled call. -/
def label (number : Number) : Text := "Run " ++ number.toText ++ ": "

/-- **One step of a run**: at most one call. A run that has nothing left to do ends with `0`. -/
def next (r : Run) : List Line × Run :=
  match r.state with
  | .inr ending => ([], ⟨r.world, .inr ending⟩)
  | .inl .nothing => ([], ⟨r.world, .inr (.exited 0)⟩)
  | .inl (.call callable arguments) => after (callable.present r.world arguments .output) .nothing
  | .inl (.profile callable arguments made repetitions) =>
    if made.lt repetitions then
      let number := made.add 1
      after (callable.present r.world arguments fun text => .timed (label number ++ text))
        (.profile callable arguments number repetitions)
    else ([], ⟨r.world, .inr (.exited 0)⟩)

/-- A run followed for at most a number of steps, and what it writes. -/
def complete (r : Run) : (steps : Nat) → List Line × Run
  | 0 => ([], r)
  | steps + 1 =>
    match r.state with
    | .inr _ => ([], r)
    | .inl _ =>
      let (lines, r) := r.next
      let (more, r) := complete r steps
      (lines ++ more, r)

/-- The steps that are enough for a run, unless it never ends: one for each repetition, and one to
end. -/
def stepsLeft (r : Run) : Nat :=
  match r.state with
  | .inr _ => 0
  | .inl .nothing => 1
  | .inl (.call ..) => 2
  | .inl (.profile _ _ _ repetitions) => repetitions.truncate.toNat + 1

/-- The code that a run ended with, if it ended with one. -/
def code? (r : Run) : Option Nat :=
  match r.state with
  | .inr (.exited code) => some code
  | _ => none

/-- **A whole run**: what it writes, and what it leaves behind. -/
def whole (host : Host) (world : World) (arguments : List Text) : List Line × Run :=
  let (lines, r) := start host world arguments
  let (more, r) := r.complete r.stepsLeft
  (lines ++ more, r)

end Run

end Turnstile
