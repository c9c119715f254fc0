import Turnstile.Proofs.CommandLine.PrintedText
import Turnstile.Proofs.Library.Session

/-! # The built-in routines

The four routines of the libraries that come with the program, each with the signature that its
library declares and the library that it is found in.

* **`Builtin`** names them; **`Builtin.callable`** is what a registry answers for a name.
* **`Host.Provides`** says that a library is installed where a host looks first, and
  **`Host.Provides.find`** that it is found there.
* **`Host.shelf`** is a host with some libraries and nothing else. -/

namespace Turnstile

/-! ## The routines -/

/-- What the library of sums says about its routine. -/
def SquareSum.signature : Signature :=
  ⟨"sumOfSquares", [⟨"values", "ArrayLike<number>", .numberArray, false, false⟩,
    ⟨"length", "number", .number, true, false⟩], "bigint", .integer⟩

/-- What the library of Fibonacci numbers says about its routine. -/
def Fibonacci.signature : Signature :=
  ⟨"fibonacci", [⟨"n", "number", .number, false, false⟩], "bigint", .integer⟩

/-- The library of sums as it is found. -/
def SquareSum.library (source module : Text) : Library :=
  ⟨"array", source, module, [SquareSum.signature],
    InstalledFile.routines [("sumOfSquares", SquareSum.routine)]⟩

/-- The library of Fibonacci numbers as it is found. -/
def Fibonacci.library (source module : Text) : Library :=
  ⟨"fib", source, module, [Fibonacci.signature],
    InstalledFile.routines [("fibonacci", Fibonacci.routine)]⟩

/-- **A built-in routine.** -/
inductive Builtin where
  | sumOfSquares
  | fibonacci
  | createString
  | freeString
  deriving DecidableEq, Repr

namespace Builtin

/-- The signature of a built-in routine. -/
def signature : Builtin → Signature
  | sumOfSquares => SquareSum.signature
  | fibonacci => Fibonacci.signature
  | createString => Strings.createSignature
  | freeString => Strings.freeSignature

/-- The routine itself, as it is called directly. -/
def routine : Builtin → Routine
  | sumOfSquares => SquareSum.routine
  | fibonacci => Fibonacci.routine
  | createString => Strings.create
  | freeString => Strings.free

/-- The library of a built-in routine. -/
def library (source module : Text) : Builtin → Library
  | sumOfSquares => SquareSum.library source module
  | fibonacci => Fibonacci.library source module
  | createString => Strings.library source module
  | freeString => Strings.library source module

/-- The name of that library. -/
def libraryName (b : Builtin) : Text := (b.library [] []).name

/-- A built-in routine behind its signature. -/
def callable (b : Builtin) : Callable := ⟨b.libraryName, b.signature, b.routine⟩

@[simp] theorem name_library (b : Builtin) (source module : Text) :
    (b.library source module).name = b.libraryName := by
  cases b <;> rfl

/-- **A built-in routine is found in its library** under its name. -/
theorem callableIn_library (b : Builtin) (source module : Text) :
    Registry.callableIn (b.library source module) b.libraryName b.signature.name
      = .ok b.callable := by
  cases b <;> rfl

end Builtin

/-! ## Where they are found -/

/-- **A library that a host provides**: its source and its module are found where libraries are
looked up when no option says otherwise, there is nothing wrong with the source, and they say and hand
out what the library does. -/
structure Host.Provides (host : Host) (library : Library) : Prop where
  found : host.registry.findPaths host library.name = .ok (library.sourcePath, library.modulePath)
  faultless : host.faults .strict library.sourcePath = []
  described : host.signatures .strict library.sourcePath = some library.signatures
  loaded : host.load library.modulePath = .ok library.exports

/-- **A library that is provided is found.** -/
theorem Host.Provides.find {host : Host} {library : Library} (h : host.Provides library) :
    host.registry.find host library.name = .ok library := by
  have hcheck : host.registry.check host library.name library.sourcePath = .ok () := by
    simp only [Registry.check, Host.registry, h.faultless, Bool.false_eq_true, if_false]
  have hdescribe : host.registry.describe host library.sourcePath = .ok library.signatures := by
    simp only [Registry.describe, Host.registry, h.described]
  have hload : Registry.loadModule host library.name library.modulePath = .ok library.exports := by
    rw [Registry.loadModule, h.loaded]
  simp only [Registry.find, h.found, hcheck, hdescribe, hload, bind, Except.bind]
  rfl

/-- The registry that has it. -/
theorem Host.Provides.add {host : Host} {library : Library} (h : host.Provides library) :
    host.registry.add host library.name
      = .ok ⟨host.registry.libraryPath, .strict, false, [(library.name, library)]⟩ := by
  rw [Registry.add, h.find]
  rfl

/-! ## A host with some libraries -/

/-- **A host with some libraries and nothing else.** -/
def Host.shelf (libraries : List Library) : Host where
  directory := "/"
  builtinPath := "/lib"
  isThere path := libraries.any fun l => l.sourcePath == path || l.modulePath == path
  settings path := .error (.unreadable path)
  faults _ _ := []
  signatures _ path := (libraries.find? fun l => l.sourcePath == path).map (·.signatures)
  load path := .ok (((libraries.find? fun l => l.modulePath == path).map (·.exports)).getD [])

/-- The built-in libraries on such a host. -/
def Builtin.shelf : List Library :=
  [SquareSum.library "/lib/array.d.ts" "/lib/array.js", Fibonacci.library "/lib/fib.d.ts" "/lib/fib.js",
    Strings.library "/lib/string-lib.d.ts" "/lib/string-lib.js"]

/-- Such a host provides the libraries that it finds by their names. -/
theorem Host.provides_shelf {libraries : List Library} {library : Library}
    (hfound : (Host.shelf libraries).registry.findPaths (Host.shelf libraries) library.name
      = .ok (library.sourcePath, library.modulePath))
    (hsource : libraries.find? (fun l => l.sourcePath == library.sourcePath) = some library)
    (hmodule : libraries.find? (fun l => l.modulePath == library.modulePath) = some library) :
    (Host.shelf libraries).Provides library where
  found := hfound
  faultless := rfl
  described := by
    simp only [shelf, hsource, Option.map_some]
  loaded := by
    simp only [shelf, hmodule, Option.map_some, Option.getD_some]

/-- The built-in libraries are provided. -/
theorem Builtin.provides_shelf {library : Library} (h : library ∈ Builtin.shelf) :
    (Host.shelf Builtin.shelf).Provides library := by
  have hall : ∀ library ∈ Builtin.shelf,
      (Host.shelf Builtin.shelf).registry.findFile (Host.shelf Builtin.shelf) library.name
          Registry.sourceEndings = some library.sourcePath
        ∧ (Host.shelf Builtin.shelf).registry.findFile (Host.shelf Builtin.shelf) library.name
          Registry.moduleEndings = some library.modulePath := by
    decide
  obtain ⟨hsource, hmodule⟩ := hall library h
  refine Host.provides_shelf (by rw [Registry.findPaths, hsource, hmodule]) ?_ ?_
  all_goals
    simp only [shelf, List.mem_cons, List.not_mem_nil, or_false] at h
    rcases h with rfl | rfl | rfl <;> rfl

end Turnstile
