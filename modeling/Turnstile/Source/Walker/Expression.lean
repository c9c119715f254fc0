import Turnstile.Source.Walker.Operation

/-! # Expressions walked over

* **`Walker.array`** and **`Walker.record`** are the types of array and record expressions, where
  something may be asked for; **`Walker.constant`** is that of a value as constant as it can be.
* **`Walker.keptAs`** is what the type of a part becomes in the whole.
* **`Walker.wantedCall?`** is the way to be called that is asked for from a function.
* **`Walker.wholeExpression`** walks over an expression by parts. -/

namespace Turnstile.Source.Walker

/-! ## What is asked for -/

/-- The single types that a type asks for; a type parameter asks for what it must be within. -/
def askedTypes (wanted : SourceType) : List SourceType :=
  wanted.alternatives.flatMap fun one =>
    match one with
    | .parameter _ _ (some bound) => bound.alternatives
    | one => [one]

/-- Whether single values like those of a type are asked for, looked for as deep as given. -/
def asksForValue (type : SourceType) : (limit : Nat) → (wanted : SourceType) → Bool
  | 0, _ => false
  | limit + 1, wanted =>
    let has (name : Text) : Bool := type.alternatives.any fun one =>
      one.isUnit && one.wrapper? == some name
    let isBase (one : SourceType) : Bool :=
      match one with
      | .string => has "String"
      | .number => has "Number"
      | .integer => has "BigInt"
      | _ => false
    wanted.alternatives.any fun one =>
      match one with
      | .keysOf _ => has "String"
      | .parameter _ _ (some bound) => bound.alternatives.any isBase || asksForValue type limit bound
      | .unresolved spelled _ => spelled.head? == some 0x60 && has "String"
      | one => one.isUnit && ((one.wrapper?.map has).getD false)

/-- **What the type of a part becomes** in the whole: a single value stays one only if single values
are asked for. -/
def keptAs (strict : Bool) (wanted : Option SourceType) (type : SourceType) : SourceType :=
  match wanted with
  | some wanted => if asksForValue type 8 wanted then type.settled else type.plain strict
  | none => type.plain strict

/-- What a type asks for from its single types, as far as they ask for anything. -/
def askedBy (s : Scope) (wanted : SourceType) (part : SourceType → Option SourceType) :
    Option SourceType :=
  if wanted.isOther then some .other
  else if wanted.isAny then none
  else
    let single (one : SourceType) : Option SourceType :=
      if one.isOther then some .other else if one.isSimple then none else part one
    match (askedTypes wanted).filterMap single with
    | [] => none
    | found => some (.unionOf s.strict found)

/-- What is asked for under a name. -/
def askedMember (r : Resolver) (s : Scope) (wanted : SourceType) (name : Text) : Option SourceType :=
  askedBy s wanted fun one =>
    let shape := r.shape s one
    match shape.property? name with
    | some p => some p.type.get
    | none =>
      match Resolver.indexAt? shape (Resolver.isNumeral name) with
      | some type => some type
      | none => if shape.isKnown then none else some .other

/-- What is asked for as the element at a place. -/
def askedElement (r : Resolver) (s : Scope) (wanted : SourceType) (place : Nat) : Option SourceType :=
  askedBy s wanted fun one =>
    match one.meaning with
    | .array _ element => some element
    | .tuple _ items =>
      match items[place]? with
      | some item =>
        if item.isRest then some (Resolver.tupleElement s.strict [item]) else some item.type
      | none =>
        match items.filter (·.isRest) with
        | [] => none
        | rest => some (Resolver.tupleElement s.strict rest)
    | one =>
      match r.propertyType? s (Text.ofNat place) one with
      | some type => some type
      | none =>
        match r.iterated? s one with
        | some type => some type
        | none => if (r.shape s one).isKnown then none else some .other

/-- How many arguments a function needs, as it is written. -/
def neededCount (tree : FunctionTree) : Nat :=
  (tree.binders.takeWhile fun b =>
    !(b.formal.isOptional || b.formal.isRest || b.default.isSome)).length

/-- Several ways to be called as one, whose parameters take what any of them takes. -/
def mergedCall (strict : Bool) : List CallType → Option CallType
  | [] => none
  | [single] => some single
  | first :: rest =>
    let all := first :: rest
    if all.any fun call => !call.typeFormals.isEmpty then none
    else
      let longest := rest.foldl (fun best call =>
        if best.formals.length < call.formals.length then call else best) first
      let formals :=
        ((List.range longest.formals.length).zip longest.formals).map fun (place, formal) =>
        if formal.isRest then formal
        else
          let type : SourceType := .unionOf strict (all.filterMap fun call => call.taken? place)
          { formal with type, declared := type }
      some { longest with formals, result := .unionOf strict (all.map (·.result)) }

/-- **The way to be called that is asked for from a function.** -/
def wantedCall? (r : Resolver) (s : Scope) (tree : FunctionTree) (wanted : SourceType) :
    Option CallType :=
  if wanted.isOther then some (.giving .other)
  else if wanted.isAny then none
  else
    let single (one : SourceType) : Option CallType :=
      let shape := r.shape s one
      if one.isOther || (!shape.isKnown && shape.calls.isEmpty && !one.isSimple) then
        some (.giving .other)
      else
        mergedCall s.strict (shape.calls.filter fun call =>
          call.takesMore || neededCount tree ≤ call.places.length)
    match (askedTypes wanted).filterMap single with
    | [] => none
    | [single] => some single
    | first :: rest =>
      if rest.all (Calls.sameArguments first) then
        some { first with result := .unionOf s.strict ((first :: rest).map (·.result)) }
      else none

/-! ## Arrays -/

/-- The union of types, without those whose values are all values of another one. -/
def reduced (r : Resolver) (s : Scope) (types : List SourceType) : SourceType :=
  let isStructured (one : SourceType) : Bool :=
    match one.meaning with
    | .named .. => true
    | .array .. => true
    | .callable _ => true
    | _ => false
  match SourceType.unionOf s.strict types with
  | .union members shown =>
    let isWithin (one : SourceType) : Bool :=
      isStructured one && members.any fun wider =>
        isStructured wider && !wider.isLike one && r.isFit s one wider && !r.isFit s wider one
    if members.any isWithin then .unionOf s.strict (members.filter fun one => !isWithin one)
    else .union members shown
  | type => type

/-- The names of the members of a record. -/
def memberNames (members : List MemberType) : List Text :=
  members.filterMap fun member =>
    match member with
    | .property name .. => some name
    | .method name .. => some name
    | _ => none

/-- Records of which each has what any of them has: what was not there is never there. -/
def levelled (types : List SourceType) : List SourceType :=
  let members (type : SourceType) : List MemberType :=
    match type with
    | .record members => members
    | _ => []
  let names := (types.flatMap fun type => memberNames (members type)).eraseDups
  types.map fun type =>
    match type with
    | .record own =>
      let missing := names.filter fun name => !(memberNames own).contains name
      .record (own ++ missing.map fun name => .property name true false .undefined)
    | type => type

/-- Whether an expression is written as a record. -/
def isRecord (e : Expression) : Bool :=
  match e.bare with
  | .record .. => true
  | _ => false

/-- The elements that an expression stands for among those of an array. -/
def elementsOf (w : Walker) (place : Place) (wanted : Option SourceType) (number : Nat)
    (e : Expression) : Walk (List TupleType) := do
  match e with
  | .spread _ value =>
    let type ← w.expression place wanted value
    let s ← Walk.scope place
    match type.meaning with
    | .tuple _ items => return items
    | type => return [⟨none, false, true, .array false ((w.resolver.iterated? s type).getD .other)⟩]
  | .hole _ => return [⟨none, false, false, .undefined⟩]
  | e =>
    let s ← Walk.scope place
    let wanted := wanted.bind fun type => askedElement w.resolver s type number
    let type ← w.expression place wanted e
    return [⟨none, false, false, keptAs s.strict wanted type⟩]

/-- **An array walked over**: a tuple if one is asked for. -/
def array (w : Walker) (place : Place) (wanted : Option SourceType) (elements : List Expression) :
    Walk SourceType := do
  let strict := place.scope.strict
  let items ← ((List.range elements.length).zip elements).mapM fun (number, e) =>
    w.elementsOf place wanted number e
  let items := items.flatten
  let s ← Walk.scope place
  let asksForTuple := (wanted.map fun type =>
    !type.isAny && (askedTypes type).any (isTupleLike w.resolver s)).getD false
  if asksForTuple then
    return Resolver.tupleOf items
  else if items.isEmpty then return .array false (if strict then .never else .undefined)
  else
    let types := items.map fun item => Resolver.tupleElement strict [item]
    let types := if wanted.isNone && elements.all isRecord then levelled types else types
    return .array false (reduced w.resolver s types)

/-! ## Records -/

/-- Whether the type of an expression tells members of a union apart. -/
def isTelling : Expression → Bool
  | .literal .. => true
  | .null _ => true
  | .name .. => true
  | .member container _ _ _ => isTelling container
  | .group _ inner => isTelling inner
  | .unary _ _ (.literal ..) => true
  | _ => false

/-- The member of a union that a record expression is meant to be, as far as its single values tell. -/
def meantRecord (w : Walker) (place : Place) (items : List RecordItem) (wanted : SourceType) :
    Walk SourceType := do
  let r := w.resolver
  let s ← Walk.scope place
  if wanted.isAny then return wanted
  match (askedTypes wanted).filter fun one => !one.isSimple with
  | [] => return wanted
  | [_] => return wanted
  | several =>
    let tells (key : Text) : Bool := several.any fun one =>
      match r.propertyType? s key one with
      | some type => type.alternatives.any SourceType.isUnit
      | none => false
    let tests ← items.mapM fun item => do
      match item with
      | .property (.known _ key) value =>
        if isTelling value && tells key then return [(key, ← w.typeNow place value)] else return []
      | .short site key _ =>
        if tells key then return [(key, ← w.typeNow place (.name site key))] else return []
      | _ => return []
    let left := several.filter fun one => tests.flatten.all fun (key, given) =>
      match r.propertyType? s key one with
      | some asked => r.isFit s given asked
      | none => true
    return if left.isEmpty then wanted else .unionOf s.strict left

/-- The members of a type that are put into a record with all that the type has, by the types that it
may be; nothing if they are not known. -/
def spreadMembers (r : Resolver) (s : Scope) (type : SourceType) : Option (List (List MemberType)) :=
  let isDeclaredClass (one : SourceType) : Bool :=
    match one.meaning with
    | .named home name _ =>
      match s.declaredAt home name with
      | some (_, all) => all.any fun d => match d with | .class _ => true | _ => false
      | none => false
    | _ => false
  let single (one : SourceType) : Option (List MemberType) :=
    match one.meaning with
    | .record members => some members
    | .object => some []
    | one =>
      if one.isSimple then some []
      else if one.isAny || one.isOpen then none
      else
        let shape := r.shape s one
        if shape.isKnown then
          some ((shape.properties.filter fun p =>
              p.owner.isNone && !(p.isMethod && isDeclaredClass one)).map (fun p =>
            match p.isMethod, p.type.get with
            | true, .callable [call] => .method p.name p.isOptional call
            | _, type => .property p.name p.isOptional p.isReadonly type)
            ++ shape.indexes.map fun index => .index "x" index.isReadonly index.key index.type)
        else none
  let isAbsent (one : SourceType) : Bool := one.isSimple
  let all := type.alternatives
  let present := all.filter fun one => !isAbsent one
  match present.mapM single with
  | none => none
  | some [] => some [[]]
  | some [members] =>
    if present.length = all.length then some [members]
    else
      some [members.map fun member =>
        match member with
        | .property name _ isReadonly type =>
          .property name true isReadonly (.orUndefined s.strict type)
        | .method name _ call => .method name true call
        | member => member]
  | some several => some several

/-- The members of a record with others put onto it; one that may be missing leaves what was there. -/
def overlay (strict : Bool) (base latest : List MemberType) : List MemberType :=
  let first := latest.map fun member =>
    match member with
    | .property name true _ type =>
      let before? := base.findSome? fun old =>
        match old with
        | .property own isOptional _ type => if own = name then some (isOptional, type) else none
        | _ => none
      match before? with
      | some (isOptional, before) =>
        .property name isOptional false (.unionOf strict [before, type.defined strict])
      | none => .property name true false type
    | .property name false _ type => .property name false false type
    | member => member
  let names := memberNames latest
  first ++ base.filterMap fun member =>
    match member with
    | .property name isOptional _ type =>
      if names.contains name then none else some (.property name isOptional false type)
    | .method name .. => if names.contains name then none else some member
    | member => some member

/-- What a record expression has so far. -/
structure Gathered where
  /-- What was there before the latest members, by the records that it may be. -/
  before : List (List MemberType)
  latest : List MemberType
  isKnown : Bool

namespace Gathered

/-- With one more member, which stands for an earlier one of its name. -/
def adding (g : Gathered) (member : MemberType) : Gathered :=
  let names := memberNames [member]
  if (memberNames g.latest).any names.contains then
    { g with latest := g.latest.map fun old =>
        if (memberNames [old]).any names.contains then member else old }
  else { g with latest := g.latest ++ [member] }

/-- With the latest members put onto those before. -/
def settled (strict : Bool) (g : Gathered) : List (List MemberType) :=
  match g.before with
  | [] => [g.latest]
  | before => if g.latest.isEmpty then before else before.map fun base => overlay strict base g.latest

/-- With all members of a type put in. -/
def spreading (strict : Bool) (g : Gathered) : Option (List (List MemberType)) → Gathered
  | none => { g with isKnown := false }
  | some choices =>
    let before := (g.settled strict).flatMap fun base => choices.map (overlay strict base)
    { g with before, latest := [] }

end Gathered

/-- What the methods of a record expression know as the record, before they are walked over. -/
def ownReceiver (w : Walker) (place : Place) (items : List RecordItem) : Walk SourceType :=
  Walk.aside do
    let inner := place.within (.types [⟨"this", .other⟩])
    let members ← items.mapM fun item => do
      match item with
      | .property (.known _ name) value =>
        return [MemberType.property name false false (keptAs place.scope.strict none
          (← w.expression inner none value))]
      | .short site name _ => return [.property name false false (← w.typeNow place (.name site name))]
      | .method (.known _ name) tree =>
        match tree.kind, tree.result.isSome with
        | .method, true =>
          return [.method name false (← w.function inner none { tree with body := .absent })]
        | .method, false => return [.method name false (.giving .other)]
        | _, true =>
          let call ← w.function inner none { tree with body := .absent }
          return [.property name false false call.result]
        | _, false => return [.property name false false .other]
      | _ => return [.index "x" false .string .other]
    return .record members.flatten

/-- Whether a record expression has a setter of a name, or a getter. -/
def hasAccessor (items : List RecordItem) (kind : FunctionKind) (name : Text) : Bool :=
  items.any fun item =>
    match item with
    | .method key tree => tree.kind = kind && key.text? == some name
    | _ => false

/-- The member that an item under a key of a type becomes. -/
def keyedMember (key : SourceType) (type : SourceType) : Option MemberType :=
  match key.keyName? with
  | some name => some (.property name false false type)
  | none =>
    match key.base with
    | .number => some (.index "x" false .number type)
    | .string => some (.index "x" false .string type)
    | .symbol => some (.index "x" false .symbol type)
    | _ => none

/-- An item of a record expression walked over. -/
def recordItem (w : Walker) (place inner : Place) (items : List RecordItem) (wanted : Option SourceType)
    (g : Gathered) (item : RecordItem) : Walk Gathered := do
  let r := w.resolver
  let strict := place.scope.strict
  let s ← Walk.scope place
  let asked (key : SourceType) : Option SourceType :=
    match wanted, key.keyName? with
    | some type, some name => askedMember r s type name
    | some type, none => askedBy s type fun one => r.elementAt? s one key.base
    | none, _ => none
  let keyOf (name : MemberName) : Walk SourceType :=
    match name with
    | .known _ name => return .literal (.text name) false
    | .computed _ key => w.expression place none key
  let adding (key type : SourceType) : Gathered :=
    match keyedMember key type with
    | some member => g.adding member
    | none => { g with isKnown := false }
  match item with
  | .property name value =>
    let key ← keyOf name
    let wanted := asked key
    let type ← w.expression place wanted value
    return adding key (keptAs strict wanted type)
  | .short site name default =>
    let wanted := asked (.literal (.text name) false)
    let type ← w.nameType place site name
    match default with
    | some value => discard (w.expression place (some type) value)
    | none => pure ()
    return g.adding (.property name false false (keptAs strict wanted type))
  | .method name tree =>
    let key ← keyOf name
    let wanted := (asked key).bind (wantedCall? r s tree)
    let call ← w.function inner (if tree.kind = .method then wanted else none) tree
    match tree.kind, key.keyName? with
    | .method, some own => return g.adding (.method own false call)
    | .method, none => return adding key (.callable [call])
    | .setter, some own =>
      if hasAccessor items .getter own then return g
      let taken := (call.formals.head?.map (·.type)).getD .other
      return g.adding (.property own false false taken)
    | _, some own => return g.adding (.property own false (!hasAccessor items .setter own) call.result)
    | _, none => return adding key call.result
  | .spread value =>
    let type ← w.expression place wanted value
    let s ← Walk.scope place
    return g.spreading strict (spreadMembers r s type)

/-- **A record walked over.** -/
def record (w : Walker) (place : Place) (wanted : Option SourceType) (items : List RecordItem) :
    Walk SourceType := do
  let wanted ← match wanted with
    | some type => some <$> w.meantRecord place items type
    | none => pure none
  let hasMethods := items.any fun item => match item with | .method .. => true | _ => false
  let receiver : SourceType ←
    if !hasMethods then pure .other
    else
      match wanted with
      | some type =>
        if (askedTypes type).any fun one => one.isObject then
          pure (presentOf place type)
        else w.ownReceiver place items
      | none => w.ownReceiver place items
  let inner := place.within (.types [⟨"this", receiver⟩])
  let g ← items.foldlM (w.recordItem place inner items wanted) ⟨[], [], true⟩
  let strict := place.scope.strict
  return if g.isKnown then .unionOf strict ((g.settled strict).map .record) else .other

/-! ## Templates and constants -/

/-- A template walked over: a text, or a single one if its holes are, or if one is asked for. -/
def template (w : Walker) (place : Place) (wanted : Option SourceType) (isConstant : Bool)
    (texts : List Text) (holes : List Expression) : Walk SourceType := do
  let types ← holes.mapM (w.expression place none)
  let isFixed := types.all fun type =>
    match type with
    | .literal (.text _) fresh => fresh
    | .literal (.number _) fresh => fresh
    | _ => false
  if isFixed then
    match Resolver.templated place.scope.strict texts types with
    | .literal value _ => return .literal value true
    | type => return type
  else
    let asksForText := (wanted.map (asksForValue (.literal (.text []) true) 8)).getD false
    if isConstant || asksForText then return Resolver.templated place.scope.strict texts types
    else return .string

/-- **A value as constant as it can be**: its literals stay what they are, and its parts cannot be
changed. -/
def constant (w : Walker) (place : Place) (wanted : Option SourceType) (e : Expression) :
    Walk SourceType := do
  match e with
  | .group _ inner => w.expression place wanted (.cast inner none)
  | .template _ texts holes => w.template place wanted true texts holes
  | .array _ elements =>
    let items ← ((List.range elements.length).zip elements).mapM fun (number, e) =>
      match e with
      | .spread site value => w.elementsOf place none number (.spread site (.cast value none))
      | .hole site => w.elementsOf place none number (.hole site)
      | e => w.elementsOf place wanted number (.cast e none)
    match Resolver.tupleOf items.flatten with
    | .tuple _ items => return .tuple true items
    | .array _ element => return .array true element
    | type => return type
  | .record _ items =>
    let fixed := items.map fun item =>
      match item with
      | .property name value => .property name (.cast value none)
      | .short site name none => .property (.known site name) (.cast (.name site name) none)
      | item => item
    let sealed (type : SourceType) : SourceType :=
      match type with
      | .record members => .record (members.map fun member =>
        match member with
        | .property name isOptional _ type => .property name isOptional true type
        | .index name _ key type => .index name true key type
        | member => member)
      | type => type
    let type ← w.record place wanted fixed
    match type with
    | .union members _ => return .unionOf place.scope.strict (members.map sealed)
    | type => return sealed type
  | value => return (← w.expression place wanted value).settled

/-! ## The whole -/

/-- A value handed out of a generator walked over. -/
def yielded (w : Walker) (place : Place) (isWhole : Bool) (value : Option Expression) :
    Walk SourceType := do
  match value with
  | none =>
    Walk.yields .undefined
    return .other
  | some e =>
    let duty := place.duty
    let wanted := if isWhole then duty.yields.map (SourceType.array false) else duty.yields
    let type ← w.expression place wanted e
    let s ← Walk.scope place
    let r := w.resolver
    let given :=
      if isWhole then (if duty.isAsync then r.iteratedAsync? s type else r.iterated? s type).getD .other
      else if duty.isAsync then r.awaited s type
      else type
    Walk.yields given
    match duty.yields with
    | some wanted => w.fit place e.site (if isWhole then none else some e) given wanted
    | none => pure ()
    return .other

/-- A choice between two expressions walked over. -/
def conditional (w : Walker) (place : Place) (wanted : Option SourceType)
    (condition whenTrue whenFalse : Expression) : Walk SourceType := do
  let outcome ← w.condition place none condition
  Walk.goOn outcome.whenTrue
  let a ← w.expression place wanted whenTrue
  let one ← Walk.flow
  Walk.goOn outcome.whenFalse
  let b ← w.expression place wanted whenFalse
  let other ← Walk.flow
  Walk.goOnFrom place.scope.strict [one, other]
  let s ← Walk.scope place
  return reduced w.resolver s [a, b]

/-- A module loaded while running: a promise of it. -/
def loaded (w : Walker) (place : Place) (source : Expression) : Walk SourceType := do
  let _ ← w.expression place none source
  match source with
  | .literal site (.text name) =>
    checkModule place name site
    match place.scope.program.moduleAt? place.scope.path name with
    | some path => return .standard "Promise" [.moduleValue path]
    | none => return .other
  | _ => return .other

/-- A generic value with its type arguments walked over. -/
def applied (w : Walker) (place : Place) (value : Expression) (trees : List TypeTree) :
    Walk SourceType := do
  let arguments ← trees.mapM (w.checkedType place)
  let type ← w.expression place none value
  let s ← Walk.scope place
  match w.resolver.callsOf s type with
  | [] => return if arguments.isEmpty then type else .other
  | calls =>
    return .callable (calls.map fun call =>
      if call.typeFormals.isEmpty then call
      else w.resolver.instantiate s call (withDefaults w.resolver s call arguments))

/-- **An expression walked over** by parts. -/
def wholeExpression (w : Walker) (place : Place) (wanted : Option SourceType) (e : Expression) :
    Walk SourceType := do
  let strict := place.scope.strict
  let chain : Walk SourceType := do
    let (type, mayEnd) ← w.wholeChain place wanted e
    return if mayEnd then .orUndefined strict type else type
  match e with
  | .name site name => w.nameType place site name
  | .literal _ value => return .literal value true
  | .null _ => return .null
  | .pattern _ => return .standard "RegExp" []
  | .template _ texts holes => w.template place wanted false texts holes
  | .tagged tag typeArguments site holes => w.tagged place wanted tag typeArguments site holes
  | .receiver site =>
    let declared := (place.scope.boundType? "this").getD .other
    let s ← Walk.scope place
    return known w.resolver s (← fact? place (.receiver site)) declared
  | .base _ => return .other
  | .loaded _ source => w.loaded place source
  | .array _ elements => w.array place wanted elements
  | .hole _ => return .undefined
  | .spread _ value =>
    let type ← w.expression place none value
    return (w.resolver.iterated? (← Walk.scope place) type).getD .other
  | .record _ items => w.record place wanted items
  | .function tree =>
    let s ← Walk.scope place
    return .callable [← w.function place (wanted.bind (wantedCall? w.resolver s tree)) tree]
  | .class tree =>
    w.classBody place tree
    return .valueOf (place.scope.home tree.site) (tree.name.getD "(Anonymous class)")
  | .group _ inner => w.expression place wanted inner
  | .call .. => chain
  | .member .. => chain
  | .element .. => chain
  | .nonNull _ => chain
  | .construct site callee typeArguments arguments =>
    w.construct place wanted site callee typeArguments arguments
  | .unary _ operator operand => w.unary place wanted operator operand
  | .yielded _ isWhole value => w.yielded place isWhole value
  | .step _ target => w.step place true target
  | .binary left operator right => w.binary place wanted left operator right
  | .assign target operator value => w.assign place true target operator value
  | .conditional condition whenTrue whenFalse => w.conditional place wanted condition whenTrue whenFalse
  | .cast value (some tree) =>
    let type ← w.checkedType place tree
    let _ ← w.expression place (some type) value
    return type
  | .cast value none => w.constant place wanted value
  | .satisfies value tree =>
    let type ← w.checkedType place tree
    let given ← w.expression place (some type) value
    let s ← Walk.scope place
    if !w.resolver.isFit s given type then
      let _ ← w.reportParts place w.resolver.limit value given type
    return given
  | .applied value typeArguments => w.applied place value typeArguments
  | .other _ => return .other

end Turnstile.Source.Walker
