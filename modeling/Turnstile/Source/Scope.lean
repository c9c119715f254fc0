import Turnstile.Source.Standard
import Turnstile.Source.Type.Union

/-! # Scopes

A **scope** is what can be used at a place of a source: the names declared around it, frame by frame,
then those of the source, those for all sources, and what is always there.

* **`Scope.find`** looks a name up; what is brought in from elsewhere is followed to its declaration.
* **`Scope.declaredAt`** finds the declarations of a type again from its home. -/

namespace Turnstile.Source

/-- **What is declared around code**, at one level. -/
inductive Frame where
  /-- The names of a block, or of a function for its code. -/
  | block (declared : List (Text × Declaration))
  /-- Names that stand for types. -/
  | types (bound : List BoundType)
  /-- The inside of namespaces of the source. -/
  | space (spaces : List Text)

/-- **What can be used at a place of a source.** -/
structure Scope where
  program : Program
  path : Text
  /-- The frames around the place, the nearest first. -/
  frames : List Frame
  /-- The types of values that are known already. -/
  values : List (Home × SourceType)
  /-- The aliases whose meaning is being found. -/
  resolving : List Home
  /-- The values whose types are being found. -/
  inferring : List Home

/-- What a name is asked for as. -/
inductive Sense where
  | value
  | type
  | space
  deriving DecidableEq

/-- Whether a declaration is of the kind that a name is asked for as. -/
def Declaration.hasSense (declaration : Declaration) : Sense → Bool
  | .value => declaration.isValue
  | .type => declaration.isType
  | .space => declaration.isSpace

/-- **What a name is found to be.** -/
inductive Found where
  | type (type : SourceType)
  /-- Declarations under one name, in the scope where they stand. -/
  | declared (scope : Scope) (name : Text) (declarations : List Declaration)
  /-- A source as a whole. -/
  | whole (path : Text)
  /-- The value of an expression of a source. -/
  | value (path : Text) (expression : Expression)
  /-- Something of which no more is known. -/
  | known
  /-- Something that is brought in, and is not there. -/
  | missing

/-- The names of the modules that the host brings along. -/
def hostModules : List Text :=
  Standard.wordsOf "assert buffer child_process crypto events fs fs/promises http https module net os"
    ++ Standard.wordsOf "path perf_hooks process readline stream timers timers/promises typescript url"
    ++ Standard.wordsOf "util vitest vitest/config worker_threads zlib"

/-- Whether a name is that of such a module. -/
def isHostModule (name : Text) : Bool := name.startsWith "node:" || hostModules.contains name

namespace Scope

/-- The scope of a whole source. -/
def ofSource (program : Program) (path : Text) : Scope := ⟨program, path, [], [], [], []⟩

/-- Whether `null` and `undefined` are types of their own. -/
def strict (s : Scope) : Bool := s.program.options.strictNulls

/-- The scope inside namespaces of a source. -/
def inside (s : Scope) (path : Text) (spaces : List Text) : Scope :=
  { s with path, frames := ((List.range spaces.length).map fun n =>
      Frame.space (spaces.take (spaces.length - n))) }

/-- The scope with one more frame. -/
def within (s : Scope) (frame : Frame) : Scope := { s with frames := frame :: s.frames }

/-- The home of what is declared at a site. -/
def home (s : Scope) (site : Site) : Home := ⟨s.path, site.offset⟩

/-- Whether a module that no file stands for is there all the same. -/
def hasModule (s : Scope) (name : Text) : Bool :=
  (isHostModule name && s.program.options.hasServer)
    || s.program.sources.any fun (_, source) => source.ambientModules.contains name

/-- The module that something is handed over from. -/
def sourceOf? : Handed → Option Text
  | .elsewhere _ source => some source
  | .whole source => some source
  | _ => none

/-- What an entity of the program is. -/
def ofEntity (s : Scope) : Program.Entity → Found
  | .declared path spaces name =>
    .declared (s.inside path spaces) name (s.program.declarationsIn path spaces name)
  | .whole path => .whole path
  | .value path expression => .value path expression
  | .missing => .missing

/-- What something handed over in a source is; of a module that no file stands for, nothing is known.
-/
def ofHanded (s : Scope) (path : Text) (handed : Handed) : Found :=
  match sourceOf? handed with
  | some source =>
    if (s.program.moduleAt? path source).isNone && s.hasModule source then .known
    else s.ofEntity (s.program.entity s.program.steps path handed)
  | none => s.ofEntity (s.program.entity s.program.steps path handed)

/-- What the declarations of a name are that stand in a scope, if any is of the kind asked for. What
is brought in is followed. -/
def ofDeclarations? (s : Scope) (sense : Sense) (name : Text) (all : List Declaration) :
    Option Found :=
  let own := all.filter fun d => !d.isImported
  if own.any (·.hasSense sense) then some (.declared s name own)
  else
    all.findSome? fun d =>
      match d with
      | .imported _ handed => some (s.ofHanded s.path handed)
      | _ => none

/-- What is declared under a name for all sources. -/
def ambient (s : Scope) (name : Text) : Option (Scope × List Declaration) :=
  s.program.sources.findSome? fun (path, source) =>
    match SourceTree.declarations (source.body [SourceTree.ambientName]) name with
    | [] => none
    | found => some (s.inside path [], found)

/-- The declarations under a name that are there for all sources, with their scope. -/
def always (s : Scope) (name : Text) : Scope × List Declaration :=
  let own := Standard.named s.program.options name
  match s.ambient name with
  | some (scope, others) => (scope, own ++ others)
  | none => (s.inside Home.always.path [], own)

/-- Whether a name stands for something of which no more is known. -/
def isKnown (s : Scope) (sense : Sense) (name : Text) : Bool :=
  match sense with
  | .value => Standard.isValueName s.program.options name
  | .type => Standard.isTypeName s.program.options name
  | .space =>
    Standard.isTypeName s.program.options name || Standard.isValueName s.program.options name

/-- What a name is outside of all frames. -/
def findOutside (s : Scope) (sense : Sense) (name : Text) : Option Found :=
  let outer := s.inside s.path []
  match outer.ofDeclarations? sense name (s.program.declarationsIn s.path [] name) with
  | some found => some found
  | none =>
    let (scope, all) := s.always name
    match scope.ofDeclarations? sense name all with
    | some found => some found
    | none => if s.isKnown sense name then some .known else none

/-- What a name is, with the frames given around it. -/
def findIn (s : Scope) (sense : Sense) (name : Text) : List Frame → Option Found
  | [] => s.findOutside sense name
  | .block declared :: rest =>
    let own := (declared.filter (·.1 = name)).map (·.2)
    match { s with frames := .block declared :: rest }.ofDeclarations? sense name own with
    | some found => some found
    | none => s.findIn sense name rest
  | .types bound :: rest =>
    match if sense = .type then bound.find? (·.name = name) else none with
    | some found => some (.type found.type)
    | none => s.findIn sense name rest
  | .space spaces :: rest =>
    let own := s.program.declarationsIn s.path spaces name
    match { s with frames := .space spaces :: rest }.ofDeclarations? sense name own with
    | some found => some found
    | none => s.findIn sense name rest

/-- **What a name is**, if anything goes by it. -/
def find (s : Scope) (sense : Sense) (name : Text) : Option Found := s.findIn sense name s.frames

/-- Whether some declarations of one name are of the kind that the name is asked for as. -/
def areMeant (sense : Sense) (all : List Declaration) : Bool :=
  all.any fun d => d.isImported || d.hasSense sense

/-- The home of the first of the declarations that a name leads to, with the frames given around it.
-/
def firstHomeIn (s : Scope) (sense : Sense) (name : Text) : List Frame → Option Home
  | [] =>
    let own := s.program.declarationsIn s.path [] name
    if areMeant sense own then own.head?.map fun d => s.home d.site else none
  | .block declared :: rest =>
    let own := (declared.filter (·.1 = name)).map (·.2)
    if areMeant sense own then own.head?.map fun d => s.home d.site
    else s.firstHomeIn sense name rest
  | .types bound :: rest =>
    if sense = .type && bound.any (·.name = name) then none else s.firstHomeIn sense name rest
  | .space spaces :: rest =>
    let own := s.program.declarationsIn s.path spaces name
    if areMeant sense own then own.head?.map fun d => s.home d.site
    else s.firstHomeIn sense name rest

/-- **The home by which a name is known where it is declared**, even if it is brought in there. -/
def firstHome? (s : Scope) (sense : Sense) (name : Text) : Option Home :=
  s.firstHomeIn sense name s.frames

/-- The type that a name stands for in a frame of types. -/
def boundType? (s : Scope) (name : Text) : Option SourceType :=
  s.frames.findSome? fun frame =>
    match frame with
    | .types bound => (bound.find? (·.name = name)).map (·.type)
    | _ => none

/-- What a name inside of something is: inside a source what it hands out, inside a namespace what is
declared there. -/
def member (s : Scope) (sense : Sense) (name : Text) : Found → Found
  | .whole path => s.ofEntity (s.program.exported path name)
  | .declared scope _ declarations =>
    let all := declarations.flatMap fun d =>
      match d with
      | .space _ body => SourceTree.declarations body name
      | _ => []
    let spaces := declarations.filterMap fun d =>
      match d with
      | .space _ body => some (Frame.block (body.flatMap Statement.declared))
      | _ => none
    match { scope with frames := spaces ++ scope.frames }.ofDeclarations? sense name all with
    | some found => found
    | none => .missing
  | .known => .known
  | _ => .missing

/-- **What a path of names is**; only the last name is asked for as what the whole is. -/
def findPath (s : Scope) (sense : Sense) : List Text → Option Found
  | [] => none
  | [name] => s.find sense name
  | first :: rest =>
    (s.find .space first).map fun found =>
      let last := rest.length - 1
      ((List.range rest.length).zip rest).foldl
        (fun found (place, name) => s.member (if place = last then sense else .space) name found) found

/-- The home of what is declared under one name among types. -/
def homeOf (s : Scope) (declarations : List Declaration) : Home :=
  if s.path = Home.always.path then .always
  else
    match declarations.find? (·.isType) with
    | some d => s.home d.site
    | none => s.home ((declarations.head?.map (·.site)).getD default)

/-! ## Back from a home -/

/-- A class that a variable stands for. -/
def classOf? (d : Declarator) : Option ClassTree :=
  match d.value.map Expression.bare with
  | some (.class tree) => some tree
  | _ => none

/-- The declarations of the name declared at an offset, with the names of the namespaces around it.
-/
def locate (offset : Nat) (spaces : List Text) :
    (limit : Nat) → List Statement → Option (List Text × List Declaration)
  | 0, _ => none
  | limit + 1, statements =>
    let all := statements.flatMap Statement.declared
    match all.find? fun (_, d) => d.site.offset = offset with
    | some (name, _) => some (spaces, (all.filter (·.1 = name)).map (·.2))
    | none =>
      statements.findSome? fun s =>
        match s with
        | .space _ _ name body => locate offset (spaces ++ [name]) limit body
        | .ambient none body => locate offset spaces limit body
        | .exportDefault _ (.class tree) =>
          if tree.site.offset = offset then some (spaces, [.class tree]) else none
        | .bindings _ _ _ declarators =>
          declarators.findSome? fun d =>
            (classOf? d).bind fun tree =>
              if tree.site.offset = offset then some (spaces, [Declaration.class tree]) else none
        | _ => none

/-- The frames around the declaration at an offset, with the declarations of its name. -/
def locateIn (offset : Nat) : List Frame → Option (List Frame × List Declaration)
  | [] => none
  | .block declared :: rest =>
    match declared.find? fun (_, d) => d.site.offset = offset with
    | some (name, _) =>
      some (.block declared :: rest, (declared.filter (·.1 = name)).map (·.2))
    | none => locateIn offset rest
  | _ :: rest => locateIn offset rest

/-- **The declarations of the type with a home**, in their scope. -/
def declaredAt (s : Scope) (home : Home) (name : Text) : Option (Scope × List Declaration) :=
  if home = .always then
    match s.always name with
    | (_, []) => none
    | found => some found
  else
    let here := if home.path = s.path then locateIn home.offset s.frames else none
    match here with
    | some (frames, found) => some ({ s with frames }, found)
    | none =>
      match s.program.source? home.path with
      | some source =>
        (locate home.offset [] (source.statements.length + 32) source.statements).map
          fun (spaces, found) => (s.inside home.path spaces, found)
      | none => none

end Scope

end Turnstile.Source
