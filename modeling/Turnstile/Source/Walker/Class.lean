import Turnstile.Source.Walker.Function

/-! # Classes walked over

* **`Walker.classPlaces`** are the places of what belongs to the instances of a class, and of what
  belongs to the class itself: what `this` and `super` are there.
* **`Walker.wholeClass`** walks over a class by parts. -/

namespace Turnstile.Source.Walker

/-- The home and the name of a class at a place. -/
def classHome (place : Place) (tree : ClassTree) : Home × Text :=
  let own := place.scope.home tree.site
  match tree.name with
  | none => (own, "(Anonymous class)")
  | some name =>
    match place.scope.find .type name with
    | some (.declared outer _ declarations) =>
      if declarations.any fun d => d.site.offset = tree.site.offset then
        (outer.homeOf declarations, name)
      else (own, name)
    | _ => (own, name)

/-- The places of what belongs to the instances of a class, and of what belongs to the class. -/
structure ClassPlaces where
  home : Home
  instances : Place
  statics : Place

/-- What `this` and `super` stand for in a class, at a place where its type parameters stand for
themselves. -/
def classPlaces (w : Walker) (outer place : Place) (tree : ClassTree) : Walk ClassPlaces := do
  let r := w.resolver
  let s ← Walk.scope place
  let (home, name) := classHome outer tree
  let made : SourceType := .named home name (tree.typeFormals.map fun f =>
    (s.boundType? f.name).getD .other)
  let whole : SourceType := .valueOf home name
  let baseMade : SourceType := (tree.base.map fun base =>
    Resolver.instanceOf r s base tree.baseArguments r.limit).getD .other
  let baseWhole : SourceType := (tree.base.map fun base => r.expression s none base).getD .other
  let within (self base : SourceType) : Place :=
    { place.inner.within (.types [⟨"this", self⟩, ⟨baseName false, base⟩, ⟨baseName true, baseWhole⟩])
      with hasArguments := false }
  return ⟨home, within made baseMade, within whole baseWhole⟩

/-- A member that only its class can use, and that nothing declares for others. -/
def declareMember (home : Home) (isAmbient : Bool) (modifiers : MemberModifiers) (name : MemberName) :
    Walk Unit :=
  match name with
  | .known site text =>
    if !isAmbient && (modifiers.visibility = .itself || isSecret text) then
      Walk.declare ⟨text, site, ⟨home, some text⟩, .function⟩
    else pure ()
  | .computed .. => pure ()

/-- The parameters of a constructor that are members which only the class can use. -/
def declareProperties (home : Home) (tree : FunctionTree) : Walk Unit :=
  tree.binders.forM fun b =>
    match b.visibility, b.formal.name with
    | some .itself, some name => Walk.declare ⟨name, b.formal.site, ⟨home, some name⟩, .property⟩
    | _, _ => pure ()

/-- A setter takes what the getter of its name gives. -/
def setterCall? (r : Resolver) (s : Scope) (members : List ClassMember) (isStatic : Bool)
    (name : MemberName) : Option CallType :=
  name.text?.bind fun text => members.findSome? fun m =>
    match m with
    | .method modifiers _ own tree =>
      if tree.kind = .getter && own.text? == some text && modifiers.isStatic = isStatic then
        let type := r.accessorType s tree
        some ⟨[], none, [⟨"value", false, false, type, type, false⟩], .void, none, false⟩
      else none
    | _ => none

/-- The key of a member walked over. -/
def memberKey (w : Walker) (place : Place) : MemberName → Walk Unit
  | .known .. => pure ()
  | .computed _ key => discard (w.expression place none key)

/-- A field walked over. -/
def field (w : Walker) (outer place : Place) (modifiers : MemberModifiers) (name : MemberName)
    (tree : Option TypeTree) (value : Option Expression) : Walk Unit := do
  w.memberKey outer name
  let annotated ← match tree with
    | some tree => some <$> w.checkedType place tree
    | none => pure none
  match value with
  | none => pure ()
  | some e =>
    let given ← w.expression place annotated e
    match annotated with
    | some type => w.fit place name.site (some e) given type
    | none =>
      let type := if modifiers.isReadonly then given.settled else given.widened place.scope.strict
      Walk.learn (place.scope.home name.site) type

/-- A method, or a half of an accessor, walked over. -/
def method (w : Walker) (outer place : Place) (members : List ClassMember) (home : Home)
    (modifiers : MemberModifiers) (name : MemberName) (tree : FunctionTree) : Walk Unit := do
  w.memberKey outer name
  let s ← Walk.scope place
  let wanted := if tree.kind = .setter then
      setterCall? w.resolver s members modifiers.isStatic name
    else none
  let reading : Reading := ⟨home, some (name.text?.getD [])⟩
  let call ← Walk.declaration reading (w.function place wanted tree)
  if tree.kind = .constructor then declareProperties home tree
  if tree.result.isNone && tree.isBodied && tree.kind ≠ .constructor then
    Walk.learn (place.scope.home tree.site) (.callable [call])

/-- A member of a class walked over. -/
def classMember (w : Walker) (outer : Place) (places : ClassPlaces) (members : List ClassMember)
    (m : ClassMember) : Walk Unit := do
  let placeOf (isStatic : Bool) : Place := if isStatic then places.statics else places.instances
  Walk.goOn (some [])
  match m with
  | .field modifiers decorators name tree value =>
    decorators.forM fun e => discard (w.expression outer none e)
    declareMember places.home modifiers.isDeclared modifiers name
    w.field outer (placeOf modifiers.isStatic) modifiers name tree value
  | .method modifiers decorators name tree =>
    decorators.forM fun e => discard (w.expression outer none e)
    let isHalf := tree.kind = .setter
      && (setterCall? w.resolver outer.scope members modifiers.isStatic name).isSome
    if tree.kind ≠ .constructor && !isHalf then
      declareMember places.home (modifiers.isDeclared || !tree.isBodied) modifiers name
    w.method outer (placeOf modifiers.isStatic) members places.home modifiers name tree
  | .index isStatic member => w.checkMember (placeOf isStatic) member (w.resolver.limit + 1)
  | .start statements =>
    let _ ← Walk.inFunction (some []) (w.statement (placeOf true) (.block statements))

/-- **A class walked over** by parts. -/
def wholeClass (w : Walker) (place : Place) (tree : ClassTree) : Walk Unit := do
  let start ← Walk.flow
  tree.decorators.forM fun e => discard (w.expression place none e)
  let place := match tree.name with
    | some name =>
      if (place.scope.find .type name).isSome then place
      else place.within (.block [(name, .class tree)])
    | none => place
  let inner := w.binding place tree.typeFormals
  w.checkTypeFormals inner tree.typeFormals (w.resolver.limit + 1)
  match tree.base with
  | some base => discard (w.expression place none base)
  | none => pure ()
  tree.baseArguments.forM (w.checkType inner)
  tree.roles.forM (w.checkType inner)
  let places ← w.classPlaces place inner tree
  tree.members.forM (w.classMember inner places tree.members)
  Walk.goOn start

end Turnstile.Source.Walker
