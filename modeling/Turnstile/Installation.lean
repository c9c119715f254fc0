import Turnstile.Installation.Builtin
import Turnstile.Installation.Sample.Endings
import Turnstile.Installation.Sample.Faulty
import Turnstile.Installation.Sample.Greeting
import Turnstile.Installation.Sample.Kinds
import Turnstile.Installation.Sample.Ordering
import Turnstile.Library.Registry
import Turnstile.Source.Faults

/-! # Installations

An **installation** is a directory with the program, its built-in libraries and the sample libraries
in it.

* **`Installation.host`** is what a registry finds around it there.
* **`Installation.isProgram`** tells whether a path leads to the program. -/

namespace Turnstile

/-- An **installation**: its directory and the files in it. -/
structure Installation where
  root : Text
  files : List InstalledFile
  /-- Links, with the paths that they lead to. -/
  links : List (Text × Text)

namespace Installation

/-- The files of the program, and the settings files. -/
def programFiles : List InstalledFile :=
  [.describing "package.json" [],
   .describing "dist/cli.js" [],
   .describing "dist/index.js" [],
   .describing "src/index.ts" [],
   .describing "vitest.config.ts" [],
   .describing "tsconfig.json"
     ["\x7b",
      "  \"compilerOptions\": \x7b",
      "    \"target\": \"ES2022\",",
      "    \"lib\": [\"ES2022\"],",
      "    \"module\": \"NodeNext\",",
      "    \"moduleResolution\": \"NodeNext\",",
      "    \"strict\": true,",
      "    \"esModuleInterop\": true,",
      "    \"isolatedModules\": true,",
      "    \"skipLibCheck\": true,",
      "    \"declaration\": true,",
      "    \"types\": [\"node\"],",
      "    \"outDir\": \"dist\"",
      "  \x7d,",
      "  \"include\": [\"src\", \"tests\", \"test-library/src\", \"vitest.config.ts\"]",
      "\x7d"],
   .describing "tsconfig.build.json"
     ["\x7b",
      "  \"extends\": \"./tsconfig.json\",",
      "  \"compilerOptions\": \x7b \"rootDir\": \"src\", \"outDir\": \"dist\" \x7d,",
      "  \"include\": [\"src\"]",
      "\x7d"],
   .describing "test-library/tsconfig.json"
     ["\x7b",
      "  \"compilerOptions\": \x7b",
      "    \"target\": \"ES2022\",",
      "    \"lib\": [\"ES2022\"],",
      "    \"module\": \"NodeNext\",",
      "    \"moduleResolution\": \"NodeNext\",",
      "    \"strict\": true,",
      "    \"skipLibCheck\": true,",
      "    \"noEmit\": true",
      "  \x7d,",
      "  \"include\": [\"src\"]",
      "\x7d"],
   .describing "test-library/tsconfig.emit.json"
     ["\x7b",
      "  \"extends\": \"./tsconfig.json\",",
      "  \"compilerOptions\": \x7b \"noEmit\": false, \"outDir\": \"out\" \x7d",
      "\x7d"],
   .describing "test-library/tsconfig.invalid.json"
     ["\x7b",
      "  \"compilerOptions\": \x7b \"target\": \"ES1999\", \"noEmit\": false \x7d,",
      "  \"include\": [\"src\"]",
      "\x7d"]]

/-- **The installation in a directory.** -/
def standard (root : Text) : Installation where
  root
  files := programFiles ++ builtinFiles ++ Greeting.files ++ Kinds.files ++ Endings.files
    ++ Faulty.files
    ++ Ordering.files
  links := [("bin/libporter", "dist/cli.js")]

/-- The files below the directory, as a tree. -/
def tree (i : Installation) : FileTree :=
  ⟨i.files.map fun file => (Path.join i.root file.path, file.text),
   i.links.map fun (path, target) => (Path.join i.root path, Path.join i.root target)⟩

/-- The directory of the built-in libraries. -/
def builtinPath (i : Installation) : Text := Path.join i.root "dist/routines"

/-- The path of the program. -/
def programPath (i : Installation) : Text := Path.join i.root "dist/cli.js"

/-- What the module at a path hands out. A file that is no module of a library hands out nothing. -/
def load (i : Installation) (path : Text) : Module :=
  match i.files.find? fun file => Path.join i.root file.path == path with
  | some ⟨_, _, some module⟩ => module
  | _ => .ok []

/-- **What a registry finds around it**, relative paths starting at a directory. -/
def host (i : Installation) (directory : Text) : Host where
  directory
  builtinPath := i.builtinPath
  isThere := i.tree.exists?
  settings path := (Settings.load i.tree path).map Settings.checkOptions
  faults options path := (Source.Program.ofRoot options i.tree path).faults directory
  signatures options path := (Source.Program.ofRoot options i.tree path).signatures path
  load := i.load

/-- **Whether a path leads to the program**, through links too. -/
def isProgram (i : Installation) (directory path : Text) : Bool :=
  !path.isEmpty
    && i.tree.real? (if Path.isAbsolute path then path else directory ++ Path.slash :: path)
      == some i.programPath

end Installation

end Turnstile
