import Turnstile.Source.Walker.Class

/-! # Declarations walked over

* **`Walker.declarator`** walks over a variable: its value is held against what is written for it, and
  is known from there.
* **`Walker.reportRepeated`** reports variables that are declared twice.
* **`Walker.declaration`** walks over what declares anything but variables. -/

namespace Turnstile.Source.Walker

/-! ## Names declared twice -/

/-- A name that a block declares for values. -/
structure DeclaredValue where
  name : Text
  site : Site
  /-- Whether it is a variable of its block alone. -/
  isBlock : Bool

/-- The values that a statement declares for its block, and for the function around it. -/
def declaredValues (s : Statement) : List DeclaredValue :=
  match s with
  | .bindings _ kind _ declarators =>
    declarators.flatMap fun d => d.pattern.names.map fun n => ⟨n.name, n.site, kind ≠ .function⟩
  | .class _ tree => tree.name.toList.map fun name => ⟨name, tree.site, false⟩
  | .function _ tree => tree.name.toList.map fun name => ⟨name, tree.site, false⟩
  | s => (s.hoisted 32).map fun (n, _) => ⟨n.name, n.site, false⟩

/-- **Reports about variables of one block that are declared more than once.** The declaration that
comes first says whether that is a fault of this kind; functions come before all others. -/
def reportRepeated (statements : List Statement) : Walk Unit := do
  let functions := statements.filter Statement.isFunction
  let others := statements.filter fun s => !s.isFunction
  let all := (functions ++ others).flatMap declaredValues
  for own in all do
    let same := all.filter (·.name = own.name)
    match same with
    | first :: _ :: _ =>
      if first.isBlock then
        Walk.report own.site ("Cannot redeclare block-scoped variable '" ++ own.name ++ "'.")
    | _ => pure ()

/-! ## Variables -/

/-- The type of a variable from its value. -/
def valueType (strict : Bool) (kind : VariableKind) (given : SourceType) : SourceType :=
  match kind, given with
  | .constant, .literal value fresh => .literal value fresh
  | .constant, .enumMember home whole name value fresh all =>
    .enumMember home whole name value fresh all
  | .constant, .union members shown => .union members shown
  | _, given => given.widened strict

/-- The names that a variable declares, seen by their source alone. -/
def ownVariables (place : Place) (group : Site) (count : Nat) (pattern : Pattern) : List OwnName :=
  let kind : DeclarationKind := .variable group count
  match pattern with
  | .record site [part] =>
    (ownNames place.scope false kind (.record site [part])).map fun own =>
      match own.kind with
      | .part partGroup _ _ => if partGroup.offset = site.offset then { own with site, kind } else own
      | _ => own
  | pattern => ownNames place.scope false kind pattern

/-- **A variable walked over**, as one of several declared at a site. -/
def declarator (w : Walker) (place : Place) (modifiers : Modifiers) (kind : VariableKind) (group : Site)
    (count : Nat) (d : Declarator) : Walk Unit := do
  let strict := place.scope.strict
  if !modifiers.isExported && !modifiers.isDeclared then
    (ownVariables place group count d.pattern).forM Walk.declare
  let annotated ← match d.type with
    | some tree => some <$> w.checkedType place tree
    | none => pure none
  let own ← if annotated.isNone && d.pattern.name?.isNone then some <$> w.ownType place d.pattern
    else pure none
  let given ← match d.value with
    | some value => some <$> w.expression place (annotated.or own) value
    | none => pure none
  match annotated, given with
  | some type, some given => w.fit place d.pattern.site d.value given type
  | _, _ => pure ()
  match d.pattern with
  | .name site name =>
    let home := place.scope.home site
    match annotated, given with
    | some type, some given => w.knowAssigned place (.name site name) type given
    | some _, none => pure ()
    | none, some given =>
      let s ← Walk.scope place
      if s.takesOn site kind d then
        Walk.learn home .any
        w.knowAssigned place (.name site name) .any given
      else
        let isOpen := (d.value.map (s.fillsLater site)).getD false
        Walk.learn home (if isOpen then .array false .other else valueType strict kind given)
        Walk.forget ⟨some home, []⟩
    | none, none =>
      Walk.learn home .any
      if place.scope.takesOn site kind d && strict then
        Walk.forget ⟨some home, []⟩
        Walk.know ⟨some home, []⟩ .undefined
  | pattern =>
    let whole : SourceType :=
      match annotated, given, own with
      | some type, _, _ => type
      | none, some given, some own => given.withMissing own
      | none, some given, none => given
      | none, none, _ => .any
    let source := (d.value.bind (reference? place)).filter fun _ => annotated.isNone
    let names ← w.bindPattern place 64 pattern ⟨whole, source, annotated.isSome⟩
    bound place (names.map fun (n, type) => (n, valueType strict kind type))

/-! ## Other declarations -/

/-- A name that a statement declares, seen by its source alone unless it is handed out. -/
def ownName (place : Place) (sense : Sense) (kind : DeclarationKind) (name : Text) (site : Site) :
    OwnName :=
  let home := (place.scope.firstHome? sense name).getD (place.scope.home site)
  ⟨name, site, ⟨home, none⟩, kind⟩

/-- A walk over the declaration of a name, which is declared unless it is handed out. -/
def declaring (modifiers : Modifiers) (own : OwnName) (walk : Walk Unit) : Walk Unit := do
  if !modifiers.isExported && !modifiers.isDeclared then Walk.declare own
  Walk.declaration own.reading walk

/-- A walk over code that runs at another time. -/
def apartFromFlow (walk : Walk Unit) : Walk Unit := do
  let start ← Walk.flow
  Walk.goOn (some [])
  walk
  Walk.goOn start

/-- The frame inside of a namespace of a name. -/
def spaceFrame (place : Place) (name : Text) : Frame :=
  let outer := (place.scope.frames.findSome? fun frame =>
    match frame with
    | .space spaces => some spaces
    | _ => none).getD []
  .space (outer ++ [name])

/-- A place inside of an interface: its type parameters, and the type itself. -/
def interfacePlace (w : Walker) (place : Place) (site : Site) (name : Text)
    (formals : List TypeFormal) : Place :=
  let inner := w.binding place formals
  let self : SourceType := .named (place.scope.home site) name []
  inner.within (.types [⟨"this", self⟩])

/-- The members of an enumeration walked over; each knows the others by their names. -/
def enumMembers (w : Walker) (place : Place) (site : Site) (name : Text) (members : List EnumMember) :
    Walk Unit := do
  let home := (place.scope.firstHome? .type name).getD (place.scope.home site)
  let all := enumValues members
  let inner := place.within (.block (members.map fun m => (m.name, .bound m.site true false)))
  members.forM fun m =>
    let value := (all.lookup m.name).getD none
    Walk.learn (place.scope.home m.site) (.enumMember home name m.name value false all)
  members.forM fun m =>
    match m.value with
    | some e => discard (w.expression inner (some .number) e)
    | none => pure ()

/-- What is brought in from a module, or handed on, walked over. -/
def moduleNames (place : Place) (moduleName : Text) (moduleSite : Site) (isNeeded : Bool)
    (names : List (Text × Site)) : Walk Unit := do
  let scope := place.scope
  match scope.program.moduleAt? scope.path moduleName with
  | some path =>
    for (name, site) in names do
      if !(scope.program.exported path name).isThere
          && !(scope.program.exportedNames path).contains name then
        Walk.report site ("Module '\"" ++ moduleName ++ "\"' has no exported member '" ++ name ++ "'.")
  | none => if isNeeded then checkModule place moduleName moduleSite

/-- A name that is handed out walked over. -/
def handedOut (place : Place) (name : Text) (site : Site) : Walk Unit := do
  readType place name
  readValue place name
  match place.scope.firstHome? .space name with
  | some home => Walk.read ⟨home, none⟩
  | none => pure ()
  if (place.scope.find .type name).isNone && (place.scope.find .value name).isNone
      && (place.scope.find .space name).isNone then
    Walk.report site (unknownName name)

/-- Whether a function is the only one of its name. -/
def isSingle (place : Place) (name : Text) : Bool :=
  match place.scope.find .value name with
  | some (.declared _ _ all) => all.length = 1
  | _ => false

/-- **What declares anything but variables, walked over.** -/
def declaration (w : Walker) (place : Place) (statement : Statement) : Walk Unit := do
  let limit := w.resolver.limit + 1
  match statement with
  | .function modifiers tree =>
    let name := tree.name.getD defaultName
    let own := ownName place .value .function name tree.site
    declaring { modifiers with isExported := modifiers.isExported || tree.name.isNone } own
      (apartFromFlow do
        let call ← w.function place none tree
        if tree.result.isNone && tree.isBodied && isSingle place name then
          Walk.learn (place.scope.home tree.site) (.callable [call]))
  | .alias modifiers site name typeFormals type =>
    declaring modifiers (ownName place .type .type name site) do
      let inner := w.binding place typeFormals
      w.checkTypeFormals inner typeFormals limit
      w.checkType inner type
  | .interface modifiers site name typeFormals bases members =>
    declaring modifiers (ownName place .type .type name site) do
      let inner := w.interfacePlace place site name typeFormals
      w.checkTypeFormals inner typeFormals limit
      bases.forM (w.checkType inner)
      members.forM fun m => w.checkMember inner m limit
  | .class modifiers tree =>
    let name := tree.name.getD defaultName
    declaring { modifiers with isExported := modifiers.isExported || tree.name.isNone }
      (ownName place .type .type name tree.site) (w.classBody place tree)
  | .enumeration modifiers site name members =>
    declaring modifiers (ownName place .type .type name site)
      (w.enumMembers place site name members)
  | .space modifiers site name body =>
    declaring modifiers (ownName place .space .function name site)
      (apartFromFlow (w.statement (place.inner.within (spaceFrame place name)) (.block body)))
  | .ambient _ body =>
    apartFromFlow (w.statement place.inner (.block (body.map ambientStatement)))
  | .imports tree =>
    let names := tree.names.map fun n => (n.name, n.nameSite)
    for (name, site) in tree.default.toList ++ tree.space.toList ++ names do
      Walk.declare ⟨name, site, ⟨place.scope.home site, none⟩, .imported tree.site⟩
    moduleNames place tree.moduleName tree.moduleSite tree.bringsNames
      (tree.names.map fun n => (n.imported, n.site))
  | .shortcut modifiers site name path =>
    declaring modifiers (ownName place .value .function name site) do
      match path with
      | first :: _ =>
        match place.scope.firstHome? .space first with
        | some home => Walk.read ⟨home, none⟩
        | none => pure ()
      | [] => pure ()
  | .exports names (some (source, site)) =>
    moduleNames place source site true (names.map fun n => (n.name, n.site))
  | .exports names none => names.forM fun n => handedOut place n.name n.site
  | .exportAll _ source site => moduleNames place source site true []
  | .exportDefault _ (.name site name) => handedOut place name site
  | .exportDefault _ value => discard (w.expression place none value)
  | _ => pure ()
where
  /-- A statement among those declared for other modules: nobody else needs to use it. -/
  ambientStatement : Statement → Statement
    | .bindings m kind site all => .bindings { m with isDeclared := true } kind site all
    | .function m tree => .function { m with isDeclared := true } tree
    | .alias m site name formals type => .alias { m with isDeclared := true } site name formals type
    | .interface m site name formals bases members =>
      .interface { m with isDeclared := true } site name formals bases members
    | .class m tree => .class { m with isDeclared := true } tree
    | .enumeration m site name members => .enumeration { m with isDeclared := true } site name members
    | .space m site name body => .space { m with isDeclared := true } site name body
    | s => s

end Turnstile.Source.Walker
