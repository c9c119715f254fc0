import Turnstile.FileTree
import Turnstile.Source.Reader.Statements

/-! # Programs

A **program** is a source with all the sources that it brings in.

* **`Declaration`** is what a name is declared as; **`Statement.declared`** lists what a statement
  declares.
* **`Program.ofRoot`** reads the root and whatever is reached from it.
* **`Program.moduleAt?`** is the source that a module name stands for.
* **`Program.exportedNames`** lists what a source hands out, **`Program.exported`** says what such a
  name stands for: renaming and handing on lead to one declaration. -/

namespace Turnstile.Source

/-- How sources are looked at. -/
structure CheckOptions where
  /-- Whether `null` and `undefined` are types of their own. -/
  strictNulls : Bool
  /-- Whether a parameter without a type is a fault. -/
  noImplicitAny : Bool
  /-- Whether a variable that is never read is a fault. -/
  noUnusedLocals : Bool
  /-- Whether a parameter that is never read is a fault. -/
  noUnusedParameters : Bool
  /-- Whether the objects of a host for servers are there, and those of a browser. -/
  hasServer : Bool
  hasBrowser : Bool
  /-- Whether sources may hold markup. -/
  hasMarkup : Bool
  /-- Whether the name of a module may leave out the extension of its file. -/
  shortModuleNames : Bool
  deriving DecidableEq, Repr

namespace CheckOptions

/-- The strict options. -/
def strict : CheckOptions :=
  { strictNulls := true, noImplicitAny := true, noUnusedLocals := false, noUnusedParameters := false,
    hasServer := true, hasBrowser := false, hasMarkup := false, shortModuleNames := false }

end CheckOptions

/-! ## What a source declares -/

/-- What a name that a source hands out, or brings in, stands for. -/
inductive Handed where
  /-- A name of the source. -/
  | own (name : Text)
  /-- What another module hands out under a name. -/
  | elsewhere (name moduleName : Text)
  /-- Another module as a whole. -/
  | whole (moduleName : Text)
  /-- What names inside one another stand for. -/
  | along (path : List Text)
  /-- The value of an expression. -/
  | value (expression : Expression)

/-- **What a name is declared as.** -/
inductive Declaration where
  /-- A variable with the declarator that binds it. -/
  | variable (site : Site) (kind : VariableKind) (declarator : Declarator)
  /-- A variable of which the type is found where its code is walked: a parameter, what a loop goes
  through, or a failure. -/
  | bound (site : Site) (isConstant isParameter : Bool)
  | function (tree : FunctionTree)
  | class (tree : ClassTree)
  | enumeration (site : Site) (members : List EnumMember)
  | space (site : Site) (body : List Statement)
  | alias (site : Site) (typeFormals : List TypeFormal) (type : TypeTree)
  | interface (site : Site) (typeFormals : List TypeFormal) (bases : List TypeTree)
      (members : List TypeMember)
  | imported (site : Site) (handed : Handed)

namespace Declaration

/-- The site of the declared name. -/
def site : Declaration → Site
  | .variable site .. => site
  | .bound site .. => site
  | .function tree => tree.site
  | .class tree => tree.site
  | .enumeration site _ => site
  | .space site _ => site
  | .alias site .. => site
  | .interface site .. => site
  | .imported site _ => site

/-- Whether a statement, or one inside it, declares a value. -/
def holdsValues : (limit : Nat) → List Statement → Bool
  | 0, _ => true
  | limit + 1, all => all.any fun s =>
    match s with
    | .alias .. => false
    | .interface .. => false
    | .space _ _ _ body => holdsValues limit body
    | _ => true

/-- Whether the name stands for a value. -/
def isValue : Declaration → Bool
  | .alias .. => false
  | .interface .. => false
  | .space _ body => holdsValues 8 body
  | _ => true

/-- Whether the name stands for a type. -/
def isType : Declaration → Bool
  | .class _ => true
  | .enumeration .. => true
  | .alias .. => true
  | .interface .. => true
  | .imported .. => true
  | _ => false

/-- Whether the name has names inside it. -/
def isSpace : Declaration → Bool
  | .space .. => true
  | .enumeration .. => true
  | .imported .. => true
  | _ => false

/-- Whether the name is brought in from elsewhere. -/
def isImported : Declaration → Bool
  | .imported .. => true
  | _ => false

end Declaration

/-- The name under which a default declaration without a name is known. -/
def defaultName : Text := "default"

/-- What an import binds names to. -/
def ImportTree.declared (i : ImportTree) : List (Text × Declaration) :=
  let whole := i.default.toList.map fun (name, site) =>
    (name, Declaration.imported site (.elsewhere defaultName i.moduleName))
  let space := i.space.toList.map fun (name, site) =>
    (name, Declaration.imported site (.whole i.moduleName))
  whole ++ space ++ i.names.map fun n =>
    (n.name, .imported n.nameSite (.elsewhere n.imported i.moduleName))

namespace Statement

/-- What stands in front of a declaration. -/
def modifiers? : Statement → Option Modifiers
  | .bindings modifiers .. => some modifiers
  | .function modifiers _ => some modifiers
  | .alias modifiers .. => some modifiers
  | .interface modifiers .. => some modifiers
  | .class modifiers _ => some modifiers
  | .enumeration modifiers .. => some modifiers
  | .space modifiers .. => some modifiers
  | .shortcut modifiers .. => some modifiers
  | _ => none

/-- **What a statement declares**, by name. -/
def declared : Statement → List (Text × Declaration)
  | .bindings _ kind _ declarators =>
    declarators.flatMap fun d => d.pattern.names.map fun n => (n.name, .variable n.site kind d)
  | .function _ tree => [(tree.name.getD defaultName, .function tree)]
  | .alias _ site name typeFormals type => [(name, .alias site typeFormals type)]
  | .interface _ site name typeFormals bases members =>
    [(name, .interface site typeFormals bases members)]
  | .class _ tree => [(tree.name.getD defaultName, .class tree)]
  | .enumeration _ site name members => [(name, .enumeration site members)]
  | .space _ site name body => [(name, .space site body)]
  | .shortcut _ site name path => [(name, .imported site (.along path))]
  | .imports i => i.declared
  | _ => []

/-- Whether a statement declares a function. -/
def isFunction : Statement → Bool
  | .function .. => true
  | _ => false

/-- Whether a statement hands out names apart from their declarations. -/
def handsOutApart : Statement → Bool
  | .exports .. => true
  | .exportAll .. => true
  | .exportDefault .. => true
  | _ => false

/-- Whether a statement makes its source a module. -/
def marksModule (s : Statement) : Bool :=
  s.handsOutApart
    || match s with
      | .imports _ => true
      | s => (s.modifiers?.map (·.isExported)).getD false

end Statement

/-- The names that a statement hands out. With `implicitly`, declarations need not say so. -/
def Statement.handsOut (implicitly : Bool) : Statement → List (Text × Handed)
  | .exports names none => names.map fun n => (n.exported, .own n.name)
  | .exports names (some (source, _)) => names.map fun n => (n.exported, .elsewhere n.name source)
  | .exportAll (some name) source _ => [(name, .whole source)]
  | .exportDefault _ (.name _ name) => [(defaultName, .own name)]
  | .exportDefault _ e => [(defaultName, .value e)]
  | s =>
    match s.modifiers? with
    | some modifiers =>
      let names := s.declared.map (·.1)
      if modifiers.isExported && modifiers.isDefault then names.map fun name => (defaultName, .own name)
      else if modifiers.isExported || implicitly then names.map fun name => (name, .own name)
      else []
    | none => []

/-- What a declaration leads on to, if it brings in what stands elsewhere. -/
def Declaration.links : Declaration → List Handed
  | .imported _ (.along (name :: rest)) => [.along (name :: rest), .own name]
  | .imported _ handed => [handed]
  | _ => []

/-- What the names that a statement hands out and declares lead on to. -/
def Statement.links (s : Statement) : List Handed :=
  (s.handsOut true).map (·.2) ++ s.declared.flatMap fun (_, declaration) => declaration.links

namespace SourceTree

/-- Whether a source is a module, given whether it only declares. -/
def isModule (tree : SourceTree) (onlyDeclares : Bool) : Bool :=
  !onlyDeclares || tree.statements.any Statement.marksModule

/-- Whether the declarations of a source are handed out without saying so: it only declares, and
hands out nothing apart. -/
def handsOutImplicitly (tree : SourceTree) (onlyDeclares : Bool) : Bool :=
  onlyDeclares && !tree.statements.any Statement.handsOutApart

/-- Named items without those whose name came before. -/
def firstNamed {α : Type} : List (Text × α) → List (Text × α)
  | [] => []
  | item :: rest => item :: (firstNamed rest).filter fun later => later.1 ≠ item.1

/-- **The names that a source hands out by itself**: first those of functions, then the others, in
their order. -/
def handsOut (tree : SourceTree) (onlyDeclares : Bool) : List (Text × Handed) :=
  if tree.isModule onlyDeclares then
    let implicitly := tree.handsOutImplicitly onlyDeclares
    let functions := tree.statements.filter Statement.isFunction
    let others := tree.statements.filter fun s => !s.isFunction
    firstNamed ((functions ++ others).flatMap (Statement.handsOut implicitly))
  else []

/-- The modules whose names a source hands on as they are. -/
def handsOn (tree : SourceTree) : List Text :=
  tree.statements.filterMap fun s =>
    match s with
    | .exportAll none source _ => some source
    | _ => none

/-- The names of the modules that a source refers to, with their sites; `true` where nothing is done
with a module that is not there. -/
def modulesNamed (tree : SourceTree) : List (Text × Site × Bool) :=
  tree.statements.filterMap fun s =>
    match s with
    | .imports i => some (i.moduleName, i.moduleSite, !i.bringsNames)
    | .exports _ (some (source, site)) => some (source, site, false)
    | .exportAll _ source site => some (source, site, false)
    | _ => none

/-- The name under which what is declared for all modules is known. -/
def ambientName : Text := "global"

/-- What is declared inside a namespace, or for all modules. -/
def inside (name : Text) (statements : List Statement) : List Statement :=
  statements.flatMap fun s =>
    match s with
    | .space _ _ own body => if own = name then body else []
    | .ambient none body => if name = ambientName then body else []
    | _ => []

/-- The statements of namespaces inside one another; of the whole source, if there are none. -/
def body (tree : SourceTree) (spaces : List Text) : List Statement :=
  spaces.foldl (fun statements name => inside name statements) tree.statements

/-- What statements declare under a name. -/
def declarations (statements : List Statement) (name : Text) : List Declaration :=
  statements.flatMap fun s => (s.declared.filter (·.1 = name)).map (·.2)

/-- The modules that a source declares by their names. -/
def ambientModules (tree : SourceTree) : List Text :=
  tree.statements.filterMap fun s =>
    match s with
    | .ambient found _ => found
    | _ => none

end SourceTree

/-! ## Programs -/

/-- Whether a file only declares. -/
def onlyDeclares (path : Text) : Bool := path.endsWith ".d.ts" || path.endsWith ".d.mts"

/-- A **program**: its root, and every source reached from there with its path. -/
structure Program where
  options : CheckOptions
  tree : FileTree
  root : Text
  sources : List (Text × SourceTree)

/-- The files that the name of a module may stand for, by their paths. -/
def moduleCandidates (shortNames : Bool) (path : Text) : List Text :=
  let swapped (ending : Text) (others : List Text) : List Text :=
    if path.endsWith ending then
      others.map fun other => path.take (path.length - ending.length) ++ other
    else []
  swapped ".js" [".ts", ".tsx", ".d.ts"] ++ swapped ".mjs" [".mts", ".d.mts"]
    ++ swapped ".cjs" [".cts", ".d.cts"]
    ++ (if path.endsWith ".ts" || path.endsWith ".mts" || path.endsWith ".tsx" then [path] else [])
    ++ (if shortNames then
          [path ++ (".ts" : Text), path ++ (".tsx" : Text), path ++ (".d.ts" : Text),
            path ++ ("/index.ts" : Text), path ++ ("/index.tsx" : Text),
            path ++ ("/index.d.ts" : Text)]
        else [])

/-- The file that the name of a module stands for in a source, if it is one of the tree. -/
def moduleFile? (tree : FileTree) (shortNames : Bool) (source moduleName : Text) : Option Text :=
  if moduleName.startsWith "./" || moduleName.startsWith "../" || moduleName.startsWith "/" then
    (moduleCandidates shortNames (Path.resolve (Path.parent source) moduleName)).find? tree.isFile
  else none

namespace Program

/-- The sources of some files and of those that they refer to, as far as they are not among those
read before; a chain of references is followed for as many steps as given. -/
def reach (options : CheckOptions) (tree : FileTree) (read : List (Text × SourceTree)) :
    (steps : Nat) → List Text → List (Text × SourceTree)
  | 0, _ => read
  | steps + 1, paths =>
    let new := paths.filter fun path => read.all (·.1 ≠ path)
      && (options.hasMarkup || read.isEmpty || !path.endsWith ".tsx")
    let found := new.filterMap fun path =>
      (tree.text? path).map fun text => (path, SourceTree.ofText text)
    if found.isEmpty then read
    else
      let referred := found.flatMap fun (path, source) =>
        source.modulesNamed.filterMap fun (moduleName, _) =>
          moduleFile? tree options.shortModuleNames path moduleName
      reach options tree (read ++ found) steps referred.eraseDups

/-- **The program of a root.** -/
def ofRoot (options : CheckOptions) (tree : FileTree) (root : Text) : Program :=
  ⟨options, tree, root, reach options tree [] (tree.files.length + 1) [root]⟩

/-- The source at a path. -/
def source? (p : Program) (path : Text) : Option SourceTree := p.sources.lookup path

/-- The path of the source that the name of a module stands for in a source. -/
def moduleAt? (p : Program) (path moduleName : Text) : Option Text :=
  (moduleFile? p.tree p.options.shortModuleNames path moduleName).filter fun found =>
    (p.source? found).isSome

/-- The names that a source hands out by itself. -/
def handsOut (p : Program) (path : Text) : List (Text × Handed) :=
  match p.source? path with
  | some source => source.handsOut (onlyDeclares path)
  | none => []

/-- The sources whose names a source hands on. -/
def handsOn (p : Program) (path : Text) : List Text :=
  match p.source? path with
  | some source => source.handsOn.filterMap (p.moduleAt? path)
  | none => []

/-- The names that a source hands out, its own ones first; `visited` are the sources on the way to
it. -/
def namesFrom (p : Program) (visited : List Text) : (steps : Nat) → (path : Text) → List Text
  | 0, _ => []
  | steps + 1, path =>
    if visited.contains path then []
    else
      let own := (p.handsOut path).map (·.1)
      let others := (p.handsOn path).flatMap fun other =>
        (p.namesFrom (path :: visited) steps other).filter (· ≠ defaultName)
      (own ++ others).eraseDups

/-- **The names that a source hands out**: its own ones, then those that it hands on. -/
def exportedNames (p : Program) (path : Text) : List Text :=
  p.namesFrom [] (p.sources.length + 1) path

/-- **What a name stands for in the end.** -/
inductive Entity where
  /-- What a source declares under a name, inside the namespaces given. -/
  | declared (path : Text) (spaces : List Text) (name : Text)
  /-- A source as a whole. -/
  | whole (path : Text)
  /-- The value of an expression of a source. -/
  | value (path : Text) (expression : Expression)
  | missing

/-- Whether an entity is one. -/
def Entity.isThere : Entity → Bool
  | .missing => false
  | _ => true

/-- What is declared under a name inside namespaces of a source. -/
def declarationsIn (p : Program) (path : Text) (spaces : List Text) (name : Text) :
    List Declaration :=
  match p.source? path with
  | some source => SourceTree.declarations (source.body spaces) name
  | none => []

/-- What an entity is declared as. -/
def declarations (p : Program) : Entity → List Declaration
  | .declared path spaces name => p.declarationsIn path spaces name
  | _ => []

/-- What names inside one another lead to from what a source declares: from a namespace to what is
declared in it. -/
def inSpaces (p : Program) (path : Text) (spaces : List Text) (name : Text) : List Text → Entity
  | [] => .declared path spaces name
  | next :: rest =>
    if (p.declarationsIn path (spaces ++ [name]) next).isEmpty then .missing
    else p.inSpaces path (spaces ++ [name]) next rest

/-- The source that hands out a name by itself, and what it hands out, from a source along those whose
names it hands on; `visited` are the sources on the way to it. -/
def originFrom (p : Program) (visited : List Text) :
    (steps : Nat) → (path name : Text) → Option (Text × Handed)
  | 0, _, _ => none
  | steps + 1, path, name =>
    if visited.contains path then none
    else
      match (p.handsOut path).lookup name with
      | some handed => some (path, handed)
      | none =>
        if name = defaultName then none
        else (p.handsOn path).findSome? fun other => p.originFrom (path :: visited) steps other name

/-- **Where a name comes from that a source hands out**: the source that hands it out by itself, and
what it hands out. -/
def origin? (p : Program) (path name : Text) : Option (Text × Handed) :=
  p.originFrom [] (p.sources.length + 1) path name

/-- What something handed out by a source stands for, along at most as many steps as given. -/
def entity (p : Program) : (steps : Nat) → (path : Text) → Handed → Entity
  | 0, _, _ => .missing
  | steps + 1, path, handed =>
    match handed with
    | .value expression => .value path expression
    | .whole moduleName =>
      match p.moduleAt? path moduleName with
      | some other => .whole other
      | none => .missing
    | .elsewhere name moduleName =>
      match (p.moduleAt? path moduleName).bind fun other => p.origin? other name with
      | some (other, handed) => entity p steps other handed
      | none => .missing
    | .along (name :: rest) =>
      match entity p steps path (.own name) with
      | .declared path spaces name => p.inSpaces path spaces name rest
      | _ => .missing
    | .along [] => .missing
    | .own name =>
      match p.declarationsIn path [] name with
      | [] => .missing
      | .imported _ handed :: others =>
        if others.all Declaration.isImported then entity p steps path handed
        else .declared path [] name
      | _ => .declared path [] name

/-- How many tokens the sources have together. -/
def size (p : Program) : Nat := (p.sources.map (·.2.size)).foldl (· + ·) 0

/-- What leads from one name to another in a source: what it hands out, and what it brings in. -/
def links (p : Program) : List (Text × Handed) :=
  p.sources.flatMap fun (path, source) =>
    (source.statements.flatMap Statement.links).map fun handed => (path, handed)

/-- How many steps lead from a name to what it stands for, at most: no link is gone along twice. -/
def steps (p : Program) : Nat := p.links.length + 1

/-- **What a name that a source hands out stands for.** -/
def exported (p : Program) (path name : Text) : Entity :=
  match p.origin? path name with
  | some (other, handed) => p.entity p.steps other handed
  | none => .missing

/-- What a name stands for inside a source. -/
def named (p : Program) (path name : Text) : Entity := p.entity p.steps path (.own name)

/-- What names lead to from an entity: from a whole source to what it hands out, from a namespace to
what is declared in it. -/
def along (p : Program) : Entity → List Text → Entity
  | found, [] => found
  | .whole path, name :: rest => p.along (p.exported path name) rest
  | .declared path spaces space, name :: rest => p.inSpaces path spaces space (name :: rest)
  | _, _ :: _ => .missing

end Program

end Turnstile.Source
