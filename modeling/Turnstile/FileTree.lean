import Turnstile.Path

/-! # File trees

A **file tree** holds texts under absolute paths, and links from paths to other paths. A directory
is there when something is below it.

* **`FileTree.text?`** is the text of a file.
* **`FileTree.real?`** walks a path name by name, through links, and says where it ends. -/

namespace Turnstile

/-- Files with their texts, and links with the paths that they lead to; all paths are absolute. -/
structure FileTree where
  files : List (Text × Text)
  links : List (Text × Text)

namespace FileTree

/-- The text of the file at a path. -/
def text? (tree : FileTree) (path : Text) : Option Text := tree.files.lookup path

/-- Whether a file is at a path. -/
def isFile (tree : FileTree) (path : Text) : Bool := (tree.text? path).isSome

/-- Whether a path is a directory: the root, or a path with something below it. -/
def isDirectory (tree : FileTree) (path : Text) : Bool :=
  let below := if path == [Path.slash] then path else path ++ [Path.slash]
  path == [Path.slash] || tree.files.any (fun file => file.1.startsWith below)
    || tree.links.any fun link => link.1.startsWith below

/-- Whether there is a file or a directory at a path that holds no link. -/
def exists? (tree : FileTree) (path : Text) : Bool := tree.isFile path || tree.isDirectory path

/-- One step of a walk from an absolute path to the name below it. A step leads only out of a
directory. -/
def step (tree : FileTree) (path name : Text) : Option Text :=
  if !tree.isDirectory path then none
  else if name.isEmpty || name == "." then some path
  else if name == ".." then some (Path.parent path)
  else
    let below := Path.join path name
    let reached := (tree.links.lookup below).getD below
    if tree.exists? reached then some reached else none

/-- **Where a path ends**, if there is something at its end. -/
def real? (tree : FileTree) (path : Text) : Option Text :=
  (Text.split Path.slash path).foldlM tree.step [Path.slash]

/-- A tree laid over another one: where both have something, the upper one counts. -/
def overlaid (tree below : FileTree) : FileTree :=
  ⟨tree.files ++ below.files, tree.links ++ below.links⟩

end FileTree

end Turnstile
