import Turnstile.Text

/-! # Paths

Slash-separated paths. A **location** is the list of names on the way from the root.

* **`Path.location`** drops empty names and `.` and lets `..` take back the name before it.
* **`Path.resolve`** makes a path absolute against a directory, **`Path.join`** puts a name below
  one.
* **`Path.relative`** is the way from one absolute path to another. -/

namespace Turnstile.Path

/-- The separator of names. -/
def slash : UInt16 := 0x2F

/-- Whether a path starts at the root. -/
def isAbsolute (path : Text) : Bool := path.head? == some slash

/-- A location with one more name, in reverse: `..` takes back the last name, at the root nothing.
-/
def enter (back : List Text) (name : Text) : List Text :=
  if name.isEmpty || name == "." then back
  else if name == ".." then back.drop 1
  else name :: back

/-- **The location of a path** that starts at the root. -/
def location (path : Text) : List Text := ((Text.split slash path).foldl enter []).reverse

/-- The absolute path of a location. -/
def ofLocation (names : List Text) : Text := slash :: Text.join [slash] names

/-- **A path made absolute** against a directory. -/
def resolve (directory path : Text) : Text :=
  if isAbsolute path then ofLocation (location path)
  else ofLocation (location (directory ++ slash :: path))

/-- A name or relative path put below an absolute directory. -/
def join (directory name : Text) : Text := ofLocation (location (directory ++ slash :: name))

/-- The directory that holds an absolute path. -/
def parent (path : Text) : Text := ofLocation (location path).dropLast

/-- The last name of a path. -/
def fileName (path : Text) : Text := ((location path).getLast?).getD []

/-- Two locations without the names that both start with. -/
def diverge : List Text → List Text → List Text × List Text
  | a :: as, b :: bs => if a = b then diverge as bs else (a :: as, b :: bs)
  | as, bs => (as, bs)

/-- **The way from an absolute directory to an absolute path.** -/
def relative (directory path : Text) : Text :=
  let (up, down) := diverge (location directory) (location path)
  Text.join [slash] (up.map (fun _ => Text.ofString "..") ++ down)

end Turnstile.Path
