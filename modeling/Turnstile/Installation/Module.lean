import Turnstile.FileTree
import Turnstile.Library.Callable

/-! # Files of an installation

* **`InstalledFile`** is a file below the root of an installation: its path, its text and, for a
  module of a library, what it hands out.
* **`describing`**, **`module`** and **`describedModule`** make files of a library. -/

namespace Turnstile

/-- What a module hands out, or the value that it throws when it is loaded. -/
abbrev Module := Except Value (List (Text × Export))

/-- A file below the root of an installation. -/
structure InstalledFile where
  path : Text
  text : Text
  module? : Option Module

namespace InstalledFile

/-- The text of some lines. -/
def lines (lines : List String) : Text :=
  (lines.map Text.ofString).flatMap fun line => line ++ Text.ofString "\n"

/-- A file with a text. -/
def describing (path : String) (text : List String) : InstalledFile :=
  ⟨Text.ofString path, lines text, none⟩

/-- Exports that are all routines. -/
def routines (exports : List (String × Routine)) : List (Text × Export) :=
  exports.map fun (name, routine) => (Text.ofString name, .routine routine)

/-- A module with nothing but routines. -/
def module (path : String) (exports : List (String × Routine)) : InstalledFile :=
  ⟨Text.ofString path, [], some (.ok (routines exports))⟩

/-- A module that throws a value when it is loaded. -/
def throwing (path : String) (thrown : Value) : InstalledFile :=
  ⟨Text.ofString path, [], some (.error thrown)⟩

/-- A module whose text describes it. -/
def describedModule (path : String) (text : List String) (exports : List (String × Routine)) :
    InstalledFile :=
  ⟨Text.ofString path, lines text, some (.ok (routines exports))⟩

end InstalledFile

end Turnstile
