import Turnstile.FileTree

/-! # Patterns of paths

Which files a settings file takes in.

* **`takesPath`** holds the names of a path against those of a pattern: a star stands for any part of a
  name, a question mark for one unit, two stars for any names.
* **`takenFiles`** lists the files of a tree that some patterns take in and others do not leave out.
  -/

namespace Turnstile.Settings

/-- Whether a name is like one with stars and question marks. -/
def nameMatches : (pattern name : Text) → Bool
  | [], [] => true
  | [], _ :: _ => false
  | 0x2A :: pattern, [] => nameMatches pattern []
  | 0x2A :: pattern, u :: name =>
    nameMatches pattern (u :: name) || nameMatches (0x2A :: pattern) name
  | _ :: _, [] => false
  | p :: pattern, u :: name => (p = 0x3F || p = u) && nameMatches pattern name
termination_by pattern name => pattern.length + name.length

/-- Whether a name holds a star or a question mark. -/
def isWild (name : Text) : Bool := name.any fun u => u = 0x2A || u = 0x3F

/-- The directories that no star stands for. -/
def isPackageDirectory (name : Text) : Bool :=
  name == "node_modules" || name == "bower_components" || name == "jspm_packages"

/-- Whether a star in front of a name may stand for it: it is not hidden. -/
def isVisible (name : Text) : Bool := name.head? ≠ some 0x2E && !isPackageDirectory name

/-- Whether the name of a pattern takes in a name. Without `hidden`, a wild one takes in no hidden
name. -/
def takesName (hidden : Bool) (pattern name : Text) : Bool :=
  nameMatches pattern name
    && (hidden || !isWild pattern
      || ((pattern.head? ≠ some 0x2A && pattern.head? ≠ some 0x3F) || name.head? ≠ some 0x2E)
        && !isPackageDirectory name)

/-- Whether the names of a path are like those of a pattern. -/
def takesPath (hidden : Bool) : (pattern path : List Text) → Bool
  | [], [] => true
  | [], _ :: _ => false
  | p :: pattern, [] => p == "**" && takesPath hidden pattern []
  | p :: pattern, name :: path =>
    if p == "**" then
      takesPath hidden pattern (name :: path)
        || ((hidden || isVisible name) && takesPath hidden (p :: pattern) path)
    else takesName hidden p name && takesPath hidden pattern path
termination_by pattern path => pattern.length + path.length

/-- Whether a pattern takes in a path below a directory. A pattern that ends in a plain name without
a point takes in all that is below it. -/
def includes (directory pattern path : Text) : Bool :=
  let names := Path.location (Path.resolve directory pattern)
  let last := (names.getLast?).getD []
  let names :=
    if last.any fun u => u = 0x2A || u = 0x3F || u = 0x2E then names
    else names ++ [Text.ofString "**", Text.ofString "*"]
  takesPath false names (Path.location path)

/-- Whether a pattern leaves out a path below a directory, by itself or with a directory that holds
it. -/
def excludes (directory pattern path : Text) : Bool :=
  let names := Path.location (Path.resolve directory pattern)
  let whole := Path.location path
  (List.range (whole.length + 1)).any fun n => takesPath true names (whole.take n)

/-- The endings of the files that are taken in. -/
def sourceEndings : List Text := [".ts", ".tsx", ".mts", ".cts"].map Text.ofString

/-- Whether a path is that of a source. -/
def isSource (path : Text) : Bool := sourceEndings.any fun ending => Text.endsWith path ending

/-- **The files of a tree that are taken in** by some patterns and not left out by others. -/
def takenFiles (tree : FileTree) (directory : Text) (included excluded : List Text) : List Text :=
  (tree.files.map (·.1)).filter fun path =>
    isSource path && included.any (fun pattern => includes directory pattern path)
      && !excluded.any fun pattern => excludes directory pattern path

end Turnstile.Settings
