import Turnstile.Library.Callable
import Turnstile.Settings
import Turnstile.Source.Described

/-! # Registries of libraries

A **registry** finds libraries by name in a directory and keeps those that were added.

* **`Host`** is what a registry finds around it: fixed functions of a path.
* **`Registry.add`** looks a library up, checks its source, describes it and loads its module, in
  this order; the first stage that fails ends it, and the registry stays as it was.
* **`Registry.functions`** and **`Registry.callable`** answer from the latest library of a name.
* **`LibraryFault`** says why there is no answer. -/

namespace Turnstile

/-- What a registry finds around it. -/
structure Host where
  /-- The directory that relative paths start at. -/
  directory : Text
  /-- The directory of the libraries that come with the program. -/
  builtinPath : Text
  /-- Whether there is a file or a directory at a path. -/
  isThere : Text → Bool
  /-- How a settings file says that sources are looked at. -/
  settings : Text → Except Settings.SettingsFault Source.CheckOptions
  /-- What is wrong with the program around a source, as lines. -/
  faults : Source.CheckOptions → Text → List Text
  /-- The signatures of a source, if it is one. -/
  signatures : Source.CheckOptions → Text → Option (List Signature)
  /-- What the module at a path hands out, or the value that it throws when it is loaded. -/
  load : Text → Except Value (List (Text × Export))

/-- A library that was added. -/
structure Library where
  name : Text
  sourcePath : Text
  modulePath : Text
  signatures : List Signature
  exports : List (Text × Export)

/-- Why a registry has no answer. -/
inductive LibraryFault where
  /-- There is no source or no module of that name. -/
  | notFound (name directory : Text)
  /-- The source is faulty. -/
  | unchecked (name : Text) (faults : List Text)
  /-- The path of the source is not that of a source. -/
  | undescribed (path : Text)
  /-- The module threw a value while it was loaded. -/
  | notLoadable (name : Text) (thrown : Value)
  /-- No library of that name was added. -/
  | notLoaded (name : Text)
  /-- The library has no such function. -/
  | noFunction (function library : Text)

namespace LibraryFault

/-- The wording of a fault; it cannot be worded where a module threw what has no text. -/
def message : LibraryFault → Except Value Text
  | .notFound name directory => .ok ("Library '" ++ name ++ "' not found in " ++ directory)
  | .unchecked name faults =>
    .ok ("Failed to check library '" ++ name ++ "':\n" ++ Text.join "\n" faults)
  | .undescribed path => .ok (Source.notInProgram path)
  | .notLoadable name thrown =>
    thrown.complaint.map fun reason => "Failed to load library '" ++ name ++ "': " ++ reason
  | .notLoaded name => .ok ("Library '" ++ name ++ "' not loaded.")
  | .noFunction function library =>
    .ok ("Function '" ++ function ++ "' not found in library '" ++ library ++ "'.")

/-- What caused a fault, if that was a thrown value. -/
def cause? : LibraryFault → Option Value
  | .notLoadable _ thrown => some thrown
  | _ => none

/-- The error value of a fault. -/
def toValue (fault : LibraryFault) : Value := .raised "Error" fault.message fault.cause?

end LibraryFault

/-- A **registry**. Of several libraries of one name the latest counts, which is the first in the
list. -/
structure Registry where
  /-- The directory that libraries are looked up in. -/
  libraryPath : Text
  options : Source.CheckOptions
  /-- Whether faulty sources are let pass. -/
  skipCheck : Bool
  loaded : List (Text × Library)

namespace Registry

/-- The endings of sources, in the order in which they are tried. -/
def sourceEndings : List Text := [".ts", ".mts", ".d.ts", ".d.mts"].map Text.ofString

/-- The endings of modules, in the order in which they are tried. -/
def moduleEndings : List Text := [".js", ".mjs", ".ts", ".mts"].map Text.ofString

/-- How sources are looked at: strictly, unless a settings file says otherwise. A blank path is that
of no settings file. -/
def checkOptions (host : Host) : (settingsPath : Option Text) →
    Except Settings.SettingsFault Source.CheckOptions
  | none => .ok .strict
  | some path =>
    if path.isEmpty then .ok .strict else host.settings (Path.resolve host.directory path)

/-- **A registry with nothing in it**, for the built-in libraries unless another directory is given.
-/
def opened (host : Host) (libraryPath settingsPath : Option Text) (skipCheck : Bool) :
    Except Settings.SettingsFault Registry :=
  (checkOptions host settingsPath).map fun options =>
    ⟨Path.resolve host.directory (libraryPath.getD host.builtinPath), options, skipCheck, []⟩

/-- The registry that looks libraries up in another directory. -/
def setPath (r : Registry) (host : Host) (path : Text) : Registry :=
  ⟨Path.resolve host.directory path, r.options, r.skipCheck, r.loaded⟩

/-- The first file below the directory that has a name and one of some endings. -/
def findFile (r : Registry) (host : Host) (name : Text) (endings : List Text) : Option Text :=
  (endings.map fun ending => Path.join r.libraryPath (name ++ ending)).find? host.isThere

/-- The source and the module of a library. -/
def findPaths (r : Registry) (host : Host) (name : Text) : Except LibraryFault (Text × Text) :=
  match r.findFile host name sourceEndings, r.findFile host name moduleEndings with
  | some sourcePath, some modulePath => .ok (sourcePath, modulePath)
  | _, _ => .error (.notFound name r.libraryPath)

/-- The check of a source. -/
def check (r : Registry) (host : Host) (name sourcePath : Text) : Except LibraryFault Unit :=
  if r.skipCheck then .ok ()
  else
    match host.faults r.options sourcePath with
    | [] => .ok ()
    | faults => .error (.unchecked name faults)

/-- The signatures of a source. -/
def describe (r : Registry) (host : Host) (sourcePath : Text) : Except LibraryFault (List Signature) :=
  match host.signatures r.options sourcePath with
  | some signatures => .ok signatures
  | none => .error (.undescribed sourcePath)

/-- What the module of a library hands out. -/
def loadModule (host : Host) (name modulePath : Text) : Except LibraryFault (List (Text × Export)) :=
  match host.load modulePath with
  | .ok exports => .ok exports
  | .error thrown => .error (.notLoadable name thrown)

/-- A library of a name, if no stage fails. -/
def find (r : Registry) (host : Host) (name : Text) : Except LibraryFault Library := do
  let (sourcePath, modulePath) ← r.findPaths host name
  r.check host name sourcePath
  let signatures ← r.describe host sourcePath
  let exports ← loadModule host name modulePath
  return ⟨name, sourcePath, modulePath, signatures, exports⟩

/-- **The registry with a library more.** -/
def add (r : Registry) (host : Host) (name : Text) : Except LibraryFault Registry :=
  (r.find host name).map fun library =>
    ⟨r.libraryPath, r.options, r.skipCheck, (name, library) :: r.loaded⟩

/-- Whether a library of a name was added. -/
def has (r : Registry) (name : Text) : Bool := (r.loaded.lookup name).isSome

/-- The library of a name. -/
def library (r : Registry) (name : Text) : Except LibraryFault Library :=
  match r.loaded.lookup name with
  | some library => .ok library
  | none => .error (.notLoaded name)

/-- **The functions of a library**, by their signatures. -/
def functions (r : Registry) (name : Text) : Except LibraryFault (List Signature) :=
  (r.library name).map (·.signatures)

/-- The callable of a library under a name: there has to be a signature, and a routine. -/
def callableIn (library : Library) (name function : Text) : Except LibraryFault Callable :=
  match library.signatures.find? (·.name == function), library.exports.lookup function with
  | some signature, some (.routine target) => .ok ⟨name, signature, target⟩
  | _, _ => .error (.noFunction function name)

/-- **A function of a library** to be called. -/
def callable (r : Registry) (name function : Text) : Except LibraryFault Callable := do
  callableIn (← r.library name) name function

end Registry

end Turnstile
