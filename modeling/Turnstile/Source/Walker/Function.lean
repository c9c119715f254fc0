import Turnstile.Source.Walker.Binding

/-! # Functions walked over

* **`Walker.parameter`** is what a parameter is, from its type, its default or what is asked for.
* **`Walker.fitReturned`** holds what is returned against the result.
* **`Walker.inferredResult`** is the result of a function that declares none, and
  **`Walker.inferredPredicate?`** what such a result says about a parameter.
* **`Walker.wholeFunction`** walks over a function by parts. -/

namespace Turnstile.Source.Walker

/-! ## Parameters -/

/-- What a way to be called takes where a parameter stands. -/
def hintedFormal? (call : CallType) (place : Nat) (isRest : Bool) : Option SourceType :=
  if isRest then
    match call.places.drop place with
    | [] => (call.places.getLast?.filter (·.isRest)).map fun p => .array false p.type
    | places => some (Resolver.tupleOf (places.map fun p =>
      ⟨none, p.isOptional && !p.isRest, p.isRest, if p.isRest then .array false p.type else p.type⟩))
  else call.taken? place

mutual

/-- The names in a pattern of which nothing says what they are. -/
def untypedNames : Pattern → List BoundName
  | .name site own => [⟨own, site⟩]
  | .record _ parts => untypedParts false parts
  | .array _ parts => untypedParts true parts

/-- The names in parts of which nothing says what they are. -/
def untypedParts (isArray : Bool) : List PatternPart → List BoundName
  | [] => []
  | .property _ _ pattern none :: rest => untypedNames pattern ++ untypedParts isArray rest
  | .element pattern none :: rest => untypedNames pattern ++ untypedParts isArray rest
  | .rest pattern :: rest =>
    (if isArray then untypedNames pattern else []) ++ untypedParts isArray rest
  | _ :: rest => untypedParts isArray rest

end

/-- A parameter of which nothing says what it is. -/
def reportUntypedBinder (place : Place) (b : Binder) : Walk Unit :=
  match b.pattern with
  | .name _ name => reportUntyped place b.formal.site name b.formal.isRest
  | pattern =>
    if place.scope.program.options.noImplicitAny then
      (untypedNames pattern).forM fun n =>
        Walk.report n.site ("Binding element '" ++ n.name ++ "' implicitly has an 'any' type.")
    else pure ()

/-- A **parameter walked over**: what it is, and the names that it binds with their types. -/
def parameter (w : Walker) (place : Place) (wanted : Option CallType) (number : Nat) (b : Binder) :
    Walk (FormalType × List (BoundName × SourceType)) := do
  let strict := place.scope.strict
  let formal := b.formal
  b.decorators.forM fun e => discard (w.expression place none e)
  let annotated ← match formal.type with
    | some tree => some <$> w.checkedType place tree
    | none => pure none
  let known := annotated.or (wanted.bind fun call => hintedFormal? call number formal.isRest)
  let own ← if known.isNone && b.pattern.name?.isNone then some <$> w.ownType place b.pattern
    else pure none
  let default ← match b.default with
    | some value => some <$> w.expression place (known.or own) value
    | none => pure none
  let declared : SourceType ← match known, default, own with
    | some type, some given, _ => do
      w.fit place formal.site b.default given type
      pure type
    | some type, none, _ => pure type
    | none, some given, some own => pure ((given.withMissing own).widened strict)
    | none, some given, none => pure (given.widened strict)
    | none, none, own => do
      reportUntypedBinder place b
      pure (if formal.isRest then .array false .any else own.getD .any)
  let type := if formal.isOptional then .orUndefined strict declared else declared
  let described : FormalType :=
    { name := formal.name.getD formal.shape
      isOptional := formal.isOptional || formal.isRest || b.default.isSome
      isRest := formal.isRest
      type := if b.default.isSome then .orUndefined strict declared else type
      declared
      hasDefault := b.default.isSome }
  let inside := if b.default.isSome then type.defined strict else type
  let names ← w.bindPattern place 64 b.pattern ⟨inside, none, annotated.isSome⟩
  return (described, names)

/-! ## What is known inside -/

/-- What a variable with a home is declared as, in a scope. -/
def declaredWith? (s : Scope) (home : Home) : Option (Text × Declaration) :=
  let isThere (item : Text × Declaration) : Bool := item.2.site.offset = home.offset
  let inFrames := s.frames.findSome? fun frame =>
    match frame with
    | .block declared => declared.find? isThere
    | _ => none
  match inFrames with
  | some found => some found
  | none =>
    (s.program.source? home.path).bind fun source =>
      ((source.body []).flatMap Statement.declared).find? isThere

/-- Whether the variable with a home does not change where it is known about. -/
def isStableHome (place : Place) (home : Home) : Bool :=
  home.path ≠ place.scope.path
    || match declaredWith? place.scope home with
      | some (_, .variable _ .constant _) => true
      | some (name, _) => !place.later.contains name
      | none => false

/-- What is known where a function starts: what is known around it of variables that do not change. -/
def entryFlow (place : Place) (isArrow : Bool) (flow : Flow) : Flow :=
  some ((flow.getD []).filter fun (reference, _) =>
    reference.path.isEmpty && match reference.root with
      | some home => isStableHome place home
      | none => isArrow)

/-! ## Results -/

/-- What a generator hands out and what it returns, by its declared result. -/
def generated? (type : SourceType) : Option (SourceType × SourceType) :=
  match type.meaning with
  | .named home name arguments =>
    let names : List Text :=
      (["Generator", "Iterator", "Iterable", "IterableIterator", "AsyncGenerator",
      "AsyncIterator", "AsyncIterable", "AsyncIterableIterator"] : List String).map Text.ofString
    if home = .always && names.contains name then
      some (arguments.headD .any, (arguments[1]?).getD .any)
    else none
  | _ => none

/-- What a function must do, from its declared result or from what is asked for. -/
def dutyOf (r : Resolver) (s : Scope) (tree : FunctionTree)
    (declared hint : Option SourceType) : Duty :=
  if tree.isGenerator then
    let found := declared.bind generated?
    { result := found.map (·.2)
      hint := none
      isAsync := tree.isAsync
      yields := found.map (·.1)
      isGenerator := true }
  else
    let plain (type : SourceType) : SourceType := if tree.isAsync then r.awaited s type else type
    { result := declared.map plain
      hint := hint.map plain
      isAsync := tree.isAsync
      yields := none
      isGenerator := false }

/-- **Something returned held against the result**, at a site: each branch of a choice by itself, looked
into as deep as given. -/
def fitReturned (w : Walker) (place : Place) (site : Site) (result : SourceType) :
    (limit : Nat) → Expression → (given : SourceType) → Walk Unit
  | 0, _, _ => pure ()
  | limit + 1, e, given => do
    match e with
    | .group _ inner => fitReturned w place site result limit inner given
    | .conditional condition whenTrue whenFalse =>
      let start ← Walk.flow
      let outcome ← Walk.aside (w.condition place none condition)
      let branch (flow : Flow) (e : Expression) : Walk Unit := do
        Walk.goOn flow
        let given ← Walk.aside (w.expression place (some result) e)
        fitReturned w place e.bare.site result limit e given
      branch outcome.whenTrue whenTrue
      branch outcome.whenFalse whenFalse
      Walk.goOn start
    | e =>
      let s ← Walk.scope place
      let given := if place.duty.isAsync then w.resolver.awaited s given else given
      w.fit place site (some e) given result

/-- What is asked for from an expression that is returned. -/
def wantedResult (place : Place) : Option SourceType :=
  (place.duty.result.or place.duty.hint).map fun type =>
    if place.duty.isAsync then
      .unionOf place.scope.strict [type, .standard "PromiseLike" [type]]
    else type

/-- What a type becomes as an inferred result, where something may be asked for. -/
def keptResult (strict : Bool) (hint : Option SourceType) (type : SourceType) : SourceType :=
  let type := if type.isUnit then keptAs strict hint type else type
  match type with
  | .union .. => type
  | type => if strict then type else type.widened strict

/-- **The result of a function that declares none**, from what it gives. -/
def inferredResult (r : Resolver) (s : Scope) (tree : FunctionTree) (hint : Option SourceType)
    (given : Walk.Given) : SourceType :=
  let values := given.returned.filterMap id
  let mayGiveNothing := given.ends || given.returned.any Option.isNone
  let mayNeverEnd := tree.kind = .arrow || (tree.kind = .plain && tree.name.isNone)
  let plain : SourceType :=
    if values.isEmpty then
      if mayGiveNothing || !mayNeverEnd then
        if (hint.map (·.isLike .undefined)).getD false then .undefined else .void
      else .never
    else
      let all := if mayGiveNothing && s.strict then values ++ [.undefined] else values
      let isVoid (type : SourceType) : Bool := type.isLike .void
      if all.any isVoid && all.all fun type => isVoid type || type.isLike .undefined then .void
      else keptResult s.strict hint (reduced r s all)
  if tree.isGenerator then
    let handed := keptResult s.strict none (reduced r s given.yielded)
    .standard (if tree.isAsync then "AsyncGenerator" else "Generator")
      [if given.yielded.isEmpty then .never else handed, plain, .unknown]
  else if tree.isAsync then r.promised s plain
  else plain

/-- Whether a function may be left without a value, by its result. -/
def mayGiveNothing (type : SourceType) : Bool :=
  type.isAny || type.isLike .undefined || type.alternatives.any (·.isLike .void)

/-- A report if control reaches the end of a function that must give something. -/
def reportEnd (w : Walker) (place : Place) (site : Site) (result : SourceType) (given : Walk.Given) :
    Walk Unit := do
  let s ← Walk.scope place
  if given.ends && !mayGiveNothing result then
    if result.isLike .never then
      Walk.report site "A function returning 'never' cannot have a reachable end point."
    else if given.returned.isEmpty then
      Walk.report site
        "A function whose declared type is neither 'undefined', 'void', nor 'any' must return a value."
    else if s.strict && !w.resolver.isFit s .undefined result then
      Walk.report site
        "Function lacks ending return statement and return type does not include 'undefined'."

/-! ## What results say -/

/-- The one expression that a function gives. -/
def soleResult? (tree : FunctionTree) : Option Expression :=
  match tree.body with
  | .value e => some e
  | .block [.leave _ (some e)] => some e
  | _ => none

/-- **What a result says about a parameter**, if the function gives `true` exactly for the values of
some type. -/
def inferredPredicate? (w : Walker) (place : Place) (tree : FunctionTree) :
    Walk (Option PredicateType) := Walk.aside do
  match soleResult? tree with
  | none => return none
  | some e =>
    if tree.isAsync || tree.isGenerator then return none
    let assigned := functionAssigned 64 tree
    let start ← Walk.flow
    let typeIn (flow : Flow) (reference : Reference) (before : SourceType) : SourceType :=
      match flow with
      | none => .never
      | some facts => (facts.lookup reference).getD before
    let found ← tree.binders.mapM fun b => do
      match b.pattern with
      | .name site name =>
        if b.formal.isRest || Resolver.isReceiver b.formal || assigned.any (·.name = name) then
          return none
        let declared := (← w.declaredType? place name).getD .other
        if declared.isLike .boolean || declared.isOther then return none
        let reference : Reference := ⟨some (place.scope.home site), []⟩
        Walk.goOn start
        let first ← w.condition place none e
        if !first.type.isLike .boolean then return none
        let held := typeIn first.whenTrue reference declared
        if held.isLike declared then return none
        Walk.goOn (start.knowing reference held)
        let second ← w.condition place none e
        if (typeIn second.whenFalse reference held).isLike .never then
          return some ⟨false, name, some held⟩
        else return none
      | _ => return none
    return found.findSome? id

/-! ## The whole -/

/-- What a walk over the parts of a function comes to. -/
structure FunctionParts where
  receiver : Option SourceType
  formals : List FormalType
  declared : Option (SourceType × Option PredicateType)
  duty : Duty
  /-- The value of a body that is an expression. -/
  value : Option SourceType
  predicate : Option PredicateType

/-- The place inside of a function, with its parameters. -/
def insideOf (place : Place) (tree : FunctionTree) (receiver : Option SourceType) : Place :=
  let place := match receiver with
    | some type => place.within (.types [⟨"this", type⟩])
    | none => place
  let place := place.within (frameOf false true (tree.binders.flatMap fun b => b.pattern.names))
  { place.inner with hasArguments := tree.kind ≠ .arrow || place.hasArguments }

/-- The names of parameters that are seen by the function alone. -/
def declareBinders (place : Place) (tree : FunctionTree) : Walk Unit :=
  tree.binders.forM fun b =>
    if b.visibility.isSome || Resolver.isReceiver b.formal then pure ()
    else
      (ownNames place.scope true .parameter b.pattern).forM fun own =>
        if b.pattern.name?.isSome && isSpare own.name then pure () else Walk.declare own

/-- The parts of a function walked over, at a place where its type parameters stand for themselves. -/
def functionParts (w : Walker) (place : Place) (wanted : Option CallType) (tree : FunctionTree) :
    Walk FunctionParts := do
  let r := w.resolver
  let (receiver, binders) ← match tree.binders with
    | first :: rest =>
      if Resolver.isReceiver first.formal then
        match first.formal.type with
        | some tree => pure (some (← w.checkedType place tree), rest)
        | none => pure (some .any, rest)
      else pure (none, first :: rest)
    | [] => pure (none, [])
  let own := receiver.or
    (if tree.kind = .plain then some ((wanted.bind (·.receiver)).getD .other) else none)
  let inner := insideOf place tree own
  let formals ← ((List.range binders.length).zip binders).mapM fun (number, b) => do
    let (formal, names) ← w.parameter inner wanted number b
    bound inner names
    return formal
  if tree.isBodied then declareBinders inner tree
  let s ← Walk.scope inner
  let declared ← match tree.result with
    | some (result, _) => do
      w.checkType inner result
      pure (some (r.resultOf s result))
    | none => pure none
  let duty := dutyOf r s tree (declared.map (·.1)) (wanted.map (·.result))
  let inner := { inner with duty }
  let predicate : Option PredicateType ←
    if declared.isSome || tree.kind = .constructor || !tree.isBodied then pure none
    else w.inferredPredicate? inner tree
  let value ← match tree.body with
    | .absent => pure none
    | .value e => do
      let given ← w.expression inner (wantedResult inner) e
      match duty.result with
      | some result => w.fitReturned inner e.bare.site result 32 e given
      | none => pure ()
      pure (some given)
    | .block statements => do
      w.statement inner (.block statements)
      pure none
  return ⟨receiver, formals, declared, duty, value, predicate⟩

/-- **A function walked over** by parts, where a way to be called may be asked for. -/
def wholeFunction (w : Walker) (place : Place) (wanted : Option CallType) (tree : FunctionTree) :
    Walk CallType := do
  let r := w.resolver
  let outer := w.binding place tree.typeFormals
  w.checkTypeFormals outer tree.typeFormals (r.limit + 1)
  let start ← Walk.flow
  let (parts, given) ← Walk.inFunction (entryFlow place (tree.kind = .arrow) start)
    (w.functionParts outer wanted tree)
  let s ← Walk.scope outer
  let isBlock := match tree.body with
    | .block _ => true
    | _ => false
  match isBlock, parts.duty.result, tree.result with
  | true, some result, some (_, site) => w.reportEnd outer site result given
  | _, _, _ => pure ()
  let (result, predicate) : SourceType × Option PredicateType :=
    match parts.declared, tree.body, parts.value with
    | some declared, _, _ => declared
    | none, .absent, _ => (.any, none)
    | none, _, some value =>
      let value := if tree.isAsync then r.awaited s value else value
      let kept := keptResult s.strict parts.duty.hint value
      (if tree.isAsync then r.promised s kept else kept, parts.predicate)
    | none, _, none => (inferredResult r s tree parts.duty.hint given, parts.predicate)
  return { typeFormals := (r.bindFormals place.scope tree.typeFormals).2
           receiver := parts.receiver
           formals := parts.formals
           result, predicate, isSynthetic := false }

end Turnstile.Source.Walker
