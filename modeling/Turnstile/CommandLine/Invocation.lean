import Turnstile.Number.Numeral
import Turnstile.Path

/-! # Invocations

What a command line asks for.

* **`Invocation.parse`** reads the arguments from the left: flags, options with a value, and
  positional arguments; behind `--` everything is positional.
* **`InvocationFault`** lists why arguments are refused; the leftmost faulty one counts, and a
  missing library or function only when no argument is faulty. -/

namespace Turnstile

/-- What a command line asks for. -/
structure Invocation where
  libraryPath : Text
  settingsPath : Option Text
  library : Text
  function : Option Text
  arguments : List Text
  list : Bool
  profile : Bool
  repetitions : Number
  skipCheck : Bool
  verbose : Bool
  help : Bool
  deriving DecidableEq

/-- Why a command line is refused. -/
inductive InvocationFault where
  | missingValue (option : Text)
  | invalidRepetitions (raw : Text)
  | unknownOption (argument : Text)
  | libraryRequired
  | functionRequired
  deriving DecidableEq, Repr

/-- The wording of a fault. -/
def InvocationFault.message : InvocationFault → Text
  | .missingValue option => option ++ " requires a value"
  | .invalidRepetitions raw => "--repeat must be a positive integer, got " ++ raw
  | .unknownOption argument => "Unknown option: " ++ argument
  | .libraryRequired => "<library> is required"
  | .functionRequired => "<function> is required unless --list is given"

namespace Invocation

/-- An option that stands alone. -/
inductive Flag where
  | help
  | list
  | profile
  | skipCheck
  | verbose
  deriving DecidableEq, Repr

/-- An option that takes the next argument as its value. -/
inductive Valued where
  | libraryPath
  | settingsPath
  | repetitions
  deriving DecidableEq, Repr

/-- The spellings of the flags. -/
def flagSpellings : List (Text × Flag) :=
  [("--help", .help), ("-h", .help), ("--list", .list), ("-l", .list), ("--profile", .profile),
   ("--skip-check", .skipCheck), ("--verbose", .verbose)]

/-- The spellings of the options with a value. -/
def valuedSpellings : List (Text × Valued) :=
  [("--lib-path", .libraryPath), ("-L", .libraryPath), ("--project", .settingsPath),
   ("-p", .settingsPath), ("--repeat", .repetitions), ("-n", .repetitions)]

/-- What one argument is when it is not the value of an option. -/
inductive Token where
  | flag (flag : Flag)
  | valued (option : Valued)
  /-- The two dashes behind which everything is positional. -/
  | terminator
  | positional
  | unknown
  deriving DecidableEq, Repr

/-- Whether an argument starts like a negative number: a dash and a digit. -/
def looksNegative : Text → Bool
  | dash :: digit :: _ => dash == Text.unit '-' && Text.isDigit digit
  | _ => false

/-- **What an argument is.** -/
def Token.of (argument : Text) : Token :=
  match flagSpellings.lookup argument with
  | some f => .flag f
  | none =>
    match valuedSpellings.lookup argument with
    | some o => .valued o
    | none =>
      if argument == "--" then .terminator
      else if argument.startsWith "-" && !looksNegative argument then .unknown
      else .positional

/-- What was read so far. -/
structure Reading where
  libraryPath : Option Text := none
  settingsPath : Option Text := none
  repetitions : Number := 1
  flags : List Flag := []
  positional : List Text := []

/-- The reading with a flag set. -/
def Reading.setFlag (r : Reading) (flag : Flag) : Reading := { r with flags := flag :: r.flags }

/-- The reading with an option's value; a number of repetitions must be a positive integer. -/
def Reading.setValue (r : Reading) (option : Valued) (value : Text) :
    Except InvocationFault Reading :=
  match option with
  | .libraryPath => .ok { r with libraryPath := some value }
  | .settingsPath => .ok { r with settingsPath := some value }
  | .repetitions =>
    let n := Numeral.number value
    if n.isInteger && Number.le 1 n then .ok { r with repetitions := n }
    else .error (.invalidRepetitions value)

/-- The reading with more positional arguments. -/
def Reading.addPositional (r : Reading) (arguments : List Text) : Reading :=
  { r with positional := r.positional ++ arguments }

/-- The arguments read from the left, after what was read so far. -/
def scan (r : Reading) : List Text → Except InvocationFault Reading
  | [] => .ok r
  | argument :: rest =>
    match Token.of argument with
    | .flag flag => scan (r.setFlag flag) rest
    | .valued option =>
      match rest with
      | [] => .error (.missingValue argument)
      | value :: rest =>
        match r.setValue option value with
        | .error fault => .error fault
        | .ok r => scan r rest
    | .terminator => .ok (r.addPositional rest)
    | .unknown => .error (.unknownOption argument)
    | .positional => scan (r.addPositional [argument]) rest

/-- Whether a name is given and not blank. -/
def isGiven (name : Option Text) : Bool :=
  match name with
  | some name => !name.isEmpty
  | none => false

/-- What is missing from a reading, if anything; help needs nothing. -/
def Reading.missing? (r : Reading) : Option InvocationFault :=
  if r.flags.contains .help then none
  else if !isGiven r.positional[0]? then some .libraryRequired
  else if !r.flags.contains .list && !isGiven r.positional[1]? then some .functionRequired
  else none

/-- The invocation of a reading, its paths made absolute. A blank settings path is none. -/
def ofReading (directory builtin : Text) (r : Reading) : Invocation where
  libraryPath := Path.resolve directory (r.libraryPath.getD builtin)
  settingsPath :=
    match r.settingsPath with
    | some path => if path.isEmpty then none else some (Path.resolve directory path)
    | none => none
  library := (r.positional[0]?).getD []
  function := r.positional[1]?
  arguments := r.positional.drop 2
  list := r.flags.contains .list
  profile := r.flags.contains .profile
  repetitions := r.repetitions
  skipCheck := r.flags.contains .skipCheck
  verbose := r.flags.contains .verbose
  help := r.flags.contains .help

/-- **The invocation that a list of arguments asks for**, given the current directory and the
directory of the built-in libraries. -/
def parse (directory builtin : Text) (arguments : List Text) : Except InvocationFault Invocation :=
  match scan {} arguments with
  | .error fault => .error fault
  | .ok r =>
    match r.missing? with
    | some fault => .error fault
    | none => .ok (ofReading directory builtin r)

end Invocation

end Turnstile
