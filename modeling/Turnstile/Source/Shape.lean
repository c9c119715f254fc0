import Turnstile.Source.Resolver

/-! # Shapes

What the values of a type have.

* **`Resolver.shapeOf`** is the shape of a type: its properties, the ways to call and to construct
  it, and what it has at keys that are not named.
* **`Resolver.valueOf`** is the type of the value that a name is declared as.
* **`Pattern.bind`** finds the types of the names that a value is bound to by parts. -/

namespace Turnstile.Source

/-- A **property** of the values of a type. -/
structure Property where
  name : Text
  isOptional : Bool
  isReadonly : Bool
  isMethod : Bool
  /-- The class that it belongs to, if not everyone can use it. -/
  owner : Option Home
  /-- Its type; an optional one may be `undefined`. -/
  type : Thunk SourceType

/-- What the values of a type have at all keys of a type. -/
structure IndexType where
  isReadonly : Bool
  key : SourceType
  type : SourceType

/-- **What the values of a type have.** -/
structure Shape where
  properties : List Property
  calls : List CallType
  constructs : List CallType
  indexes : List IndexType
  /-- Whether there is nothing else that is not known. -/
  isKnown : Bool

namespace Shape

/-- Nothing at all. -/
def empty : Shape := ⟨[], [], [], [], true⟩

/-- Nothing that is known. -/
def unknown : Shape := ⟨[], [], [], [], false⟩

/-- The property with a name. -/
def property? (shape : Shape) (name : Text) : Option Property :=
  shape.properties.find? (·.name = name)

/-- One shape with what it takes over from another one: what it does not have itself. -/
def inheriting (own base : Shape) : Shape where
  properties := own.properties ++ base.properties.filter fun p => (own.property? p.name).isNone
  calls := own.calls ++ base.calls
  constructs := own.constructs ++ base.constructs
  indexes := own.indexes ++ base.indexes
  isKnown := own.isKnown && base.isKnown

end Shape

/-- The ways in which a type can be called that is nothing else. -/
def SourceType.ownCalls (type : SourceType) : List CallType :=
  match type.meaning with
  | .callable calls => calls
  | _ => []

/-- Properties with each name once: methods of one name are the ways to call one method. -/
def joinMethods : List Property → List Property
  | [] => []
  | first :: rest =>
    let same := if first.isMethod then rest.filter (·.name = first.name) else []
    let joined : Property :=
      if same.isEmpty then first
      else
        { first with type := Thunk.mk fun _ =>
            .callable ((first :: same).flatMap fun p => p.type.get.ownCalls) }
    joined :: (joinMethods rest).filter (·.name ≠ first.name)

/-- The shape of a record. -/
def Shape.ofMembers (members : List MemberType) : Shape where
  properties := joinMethods (members.filterMap fun member =>
    match member with
    | .property name isOptional isReadonly type =>
      some ⟨name, isOptional, isReadonly, false, none, Thunk.pure type⟩
    | .method name isOptional call =>
      some ⟨name, isOptional, false, true, none, Thunk.pure (.callable [call])⟩
    | _ => none)
  calls := members.filterMap fun member =>
    match member with
    | .call call => some call
    | _ => none
  constructs := members.filterMap fun member =>
    match member with
    | .construct call => some call
    | _ => none
  indexes := members.filterMap fun member =>
    match member with
    | .index _ isReadonly key type => some ⟨isReadonly, key, type⟩
    | _ => none
  isKnown := true

/-- What a part of a value is. -/
inductive PartKey where
  | member (name : MemberName)
  | element (place : Nat)
  | otherMembers (taken : List Text)
  | otherElements (taken : Nat)

mutual

/-- The names that a pattern binds with the types of the parts that they are bound to. -/
def Pattern.bind (part : SourceType → PartKey → Option Expression → SourceType) (whole : SourceType) :
    Pattern → List (BoundName × SourceType)
  | .name site own => [(⟨own, site⟩, whole)]
  | .record _ parts => bindParts part whole [] 0 parts
  | .array _ parts => bindParts part whole [] 0 parts

/-- The names that parts are bound to, with their types; `taken` are the members and the number of
elements that came before. -/
def bindParts (part : SourceType → PartKey → Option Expression → SourceType) (whole : SourceType)
    (taken : List Text) (place : Nat) : List PatternPart → List (BoundName × SourceType)
  | [] => []
  | .property key _ pattern default :: rest =>
    pattern.bind part (part whole (.member key) default)
      ++ bindParts part whole (taken ++ key.text?.toList) place rest
  | .element pattern default :: rest =>
    pattern.bind part (part whole (.element place) default)
      ++ bindParts part whole taken (place + 1) rest
  | .hole :: rest => bindParts part whole taken (place + 1) rest
  | .rest pattern :: others =>
    pattern.bind part
        (part whole (if place = 0 then .otherMembers taken else .otherElements place) none)
      ++ bindParts part whole taken (place + 1) others

end

mutual

/-- **The type that a pattern has by itself**: what its parts have from what stands for them where they
are missing, which is found by `type`. -/
def Pattern.ownType (type : Expression → SourceType) : Pattern → SourceType
  | .name .. => .any
  | .record _ parts => .record (partMembers type parts)
  | .array _ [] => .standard "Iterable" [.any]
  | .array _ [.rest _] => .standard "Iterable" [.any]
  | .array _ parts => .tuple false (partItems type parts)

/-- The members that parts take. -/
def partMembers (type : Expression → SourceType) : List PatternPart → List MemberType
  | [] => []
  | .property key _ pattern default :: rest =>
    let found := (default.map type).getD (pattern.ownType type)
    match key.text? with
    | some name => .property name default.isSome false found :: partMembers type rest
    | none => partMembers type rest
  | .rest _ :: rest => .index "x" false .string .any :: partMembers type rest
  | _ :: rest => partMembers type rest

/-- The elements that parts take. -/
def partItems (type : Expression → SourceType) : List PatternPart → List TupleType
  | [] => []
  | .element pattern default :: rest =>
    ⟨none, default.isSome && partsMayBeMissing rest, false,
      (default.map type).getD (pattern.ownType type)⟩ :: partItems type rest
  | .rest _ :: rest => ⟨none, false, true, .array false .any⟩ :: partItems type rest
  | .hole :: rest => ⟨none, partsMayBeMissing rest, false, .any⟩ :: partItems type rest
  | _ :: rest => partItems type rest

/-- Whether none of some parts must be there. -/
def partsMayBeMissing : List PatternPart → Bool
  | [] => true
  | .element _ none :: _ => false
  | _ :: rest => partsMayBeMissing rest

end

/-- The type of a value taken apart, with the members that may be missing in it. -/
def SourceType.withMissing (type own : SourceType) : SourceType :=
  match type, own with
  | .record members, .record asked =>
    let isThere (name : Text) : Bool := members.any fun member =>
      match member with
      | .property known .. => known = name
      | .method known .. => known = name
      | _ => false
    .record (members ++ asked.filter fun member =>
      match member with
      | .property name true _ _ => !isThere name
      | _ => false)
  | type, _ => type

/-- The name of a key that is known. -/
def SourceType.keyName? (type : SourceType) : Option Text :=
  match type.meaning with
  | .literal (.text name) _ => some name
  | .literal (.number value) _ => some value.toText
  | .enumMember _ _ _ (some (.text name)) _ _ => some name
  | .enumMember _ _ _ (some (.number value)) _ _ => some value.toText
  | _ => none

/-- The number that a literal type stands for, if it is one that counts. -/
def SourceType.place? (type : SourceType) : Option Nat :=
  match type.meaning with
  | .literal (.number value) _ => value.toInt?.map Int.toNat
  | _ => none

/-- Whether a function has code. -/
def FunctionTree.isBodied (tree : FunctionTree) : Bool :=
  match tree.body with
  | .absent => false
  | _ => true

/-- The functions among some declarations. -/
def functionsOf (declarations : List Declaration) : List FunctionTree :=
  declarations.filterMap fun d =>
    match d with
    | .function tree => some tree
    | _ => none

/-- The functions of one name that can be called: those without code, if there are several. -/
def callableTrees (trees : List FunctionTree) : List FunctionTree :=
  match trees with
  | [single] => [single]
  | several =>
    match several.filter fun tree => !tree.isBodied with
    | [] => several.take 1
    | heads => heads

/-- The standard type whose members the values of a primitive type have. -/
def SourceType.wrapper? : SourceType → Option Text
  | .string => some "String"
  | .number => some "Number"
  | .integer => some "BigInt"
  | .boolean => some "Boolean"
  | .symbol => some "Symbol"
  | .literal (.text _) _ => some "String"
  | .literal (.number _) _ => some "Number"
  | .literal (.integer _) _ => some "BigInt"
  | .literal (.boolean _) _ => some "Boolean"
  | .enumMember _ _ _ (some (.text _)) _ _ => some "String"
  | .enumMember .. => some "Number"
  | .enumeration _ _ members =>
    if members.all fun (_, value) => match value with | some (.text _) => true | _ => false then
      some "String"
    else some "Number"
  | _ => none

/-- The types of the parameters of a tree that are members of its class. -/
def parameterMembers (tree : FunctionTree) : List Binder :=
  tree.binders.filter fun b => b.visibility.isSome

/-- Whether a name is that of a member that only its class can use. -/
def isSecret (name : Text) : Bool := name.startsWith "#"

/-- The owner of a member, if not everyone can use it. -/
def ownerOf (home : Home) (visibility : Visibility) (name : Text) : Option Home :=
  if visibility ≠ .everyone || isSecret name then some home else none

/-- A key of an enumeration as a property. -/
def enumProperty (home : Home) (whole : Text) (all : List (Text × Option Literal))
    (member : Text × Option Literal) : Property :=
  ⟨member.1, false, true, false, none,
    Thunk.pure (.enumMember home whole member.1 member.2 true all)⟩

/-- The value of a member of an enumeration from its expression and the one before it. -/
def enumValue (before : Option Literal) (known : List (Text × Option Literal)) :
    Option Expression → Option Literal
  | none =>
    match before with
    | some (.number value) => some (.number (value.add (.ofNat 1)))
    | _ => none
  | some e =>
    match e.bare with
    | .literal _ value => some value
    | .unary _ operator (.literal _ (.number value)) =>
      if operator == "-" then some (.number value.neg) else some (.number value)
    | .name _ name => (known.lookup name).getD none
    | .member (.name ..) _ name _ => (known.lookup name).getD none
    | _ => none

/-- The members of an enumeration with their values. -/
def enumValues (members : List EnumMember) : List (Text × Option Literal) :=
  let start : Option Literal := some (.number (.ofInt (-1)))
  (members.foldl (fun (done, before) m =>
    let value := enumValue before done m.value
    (done ++ [(m.name, value)], value)) (([] : List (Text × Option Literal)), start)).1

/-- Whether an expression is `null` or `undefined`. -/
def isNothing (e : Expression) : Bool :=
  match e.bare with
  | .null _ => true
  | .name _ own => own == "undefined"
  | _ => false

/-- Whether a statement of a source itself hands out the variables declared at a site, or only declares
them. -/
def Statement.handsOutAt (site : Site) : Statement → Bool
  | .bindings modifiers _ _ all =>
    (modifiers.isExported || modifiers.isDeclared) && all.any fun d =>
      d.pattern.site.offset = site.offset
  | _ => false

/-- Whether a variable of a scope is seen by its source alone. -/
def Scope.keeps (s : Scope) (site : Site) : Bool :=
  match s.program.source? s.path with
  | some source => !source.statements.any (Statement.handsOutAt site)
  | none => true

/-- **Whether a variable takes on the type of what is assigned to it**: none is written for it, and it
starts with nothing. -/
def Scope.takesOn (s : Scope) (site : Site) (kind : VariableKind) (d : Declarator) : Bool :=
  s.program.options.noImplicitAny && kind ≠ .constant && d.type.isNone && d.pattern.name?.isSome
    && (d.value.map isNothing).getD true && s.keeps site

/-- Whether the elements of an array are those that are put into it later: none are written for it. -/
def Scope.fillsLater (s : Scope) (site : Site) (value : Expression) : Bool :=
  s.program.options.noImplicitAny && s.keeps site
    && match value.bare with
      | .array _ [] => true
      | _ => false

namespace Resolver

/-- The shape of written members. -/
def writtenShape (r : Resolver) (s : Scope) (members : List TypeMember) : Shape where
  properties := joinMethods (members.filterMap fun member =>
    match member with
    | .property _ name isOptional isReadonly type =>
      some ⟨name, isOptional, isReadonly, false, none, Thunk.mk fun _ =>
        let type := (type.map (r.type s)).getD .any
        if isOptional then .orUndefined s.strict type else type⟩
    | .method _ name isOptional shape =>
      some ⟨name, isOptional, false, true, none, Thunk.mk fun _ => .callable [r.callOf s shape]⟩
    | _ => none)
  calls := members.filterMap fun member =>
    match member with
    | .call shape => some (r.callOf s shape)
    | _ => none
  constructs := members.filterMap fun member =>
    match member with
    | .construct shape => some (r.callOf s shape)
    | _ => none
  indexes := members.filterMap fun member =>
    match member with
    | .index _ isReadonly key type => some ⟨isReadonly, r.type s key, r.type s type⟩
    | _ => none
  isKnown := true

/-- What is found for a value by its code, unless it is known already or being found. -/
def inferring (s : Scope) (site : Site) (find : Scope → SourceType) : SourceType :=
  let home := s.home site
  match s.values.lookup home with
  | some type => type
  | none =>
    if s.inferring.contains home then .other
    else find { s with inferring := home :: s.inferring }

/-- The type of a field of a class. -/
def fieldType (r : Resolver) (s : Scope) (modifiers : MemberModifiers) (name : MemberName)
    (type : Option TypeTree) (value : Option Expression) : SourceType :=
  match type, value with
  | some type, _ =>
    let type := r.type s type
    if modifiers.isOptional then .orUndefined s.strict type else type
  | none, some value =>
    inferring s name.site fun s =>
      let found := r.expression s none value
      if modifiers.isReadonly then found.settled else found.widened s.strict
  | none, none => .other

/-- The ways to call a function. -/
def functionCall (r : Resolver) (s : Scope) (tree : FunctionTree) : SourceType :=
  if tree.result.isSome then .callable [r.function s none { tree with body := .absent }]
  else inferring s tree.site fun s => .callable [r.function s none tree]

/-- The type of a getter or of a setter. -/
def accessorType (r : Resolver) (s : Scope) (tree : FunctionTree) : SourceType :=
  if tree.kind = .setter then
    match (tree.binders.head?).bind fun b => b.formal.type with
    | some type => r.type s type
    | none => .other
  else
    match (r.functionCall s tree).ownCalls with
    | call :: _ => call.result
    | [] => .other

/-- The properties that a member of a class declares. -/
def classProperties (r : Resolver) (s : Scope) (home : Home) (isStatic : Bool) :
    ClassMember → List Property
  | .field modifiers _ name type value =>
    match name.text? with
    | some text =>
      if modifiers.isStatic = isStatic then
        [⟨text, modifiers.isOptional, modifiers.isReadonly, false,
          ownerOf home modifiers.visibility text,
          Thunk.mk fun _ => r.fieldType s modifiers name type value⟩]
      else []
    | none => []
  | .method modifiers _ name tree =>
    match name.text? with
    | some text =>
      if tree.kind = .constructor then
        if isStatic then []
        else
          (parameterMembers tree).map fun b =>
            ⟨b.formal.name.getD [], b.formal.isOptional, false, false,
              ownerOf home (b.visibility.getD .everyone) [],
              Thunk.mk fun _ =>
                match b.formal.type, b.default with
                | some _, _ => (r.formalOf s b.formal).type
                | none, some value => (r.expression s none value).widened s.strict
                | none, none => .other⟩
      else if modifiers.isStatic = isStatic then
        [⟨text, modifiers.isOptional, false, tree.kind = .method,
          ownerOf home modifiers.visibility text,
          Thunk.mk fun _ =>
            if tree.kind = .method then r.functionCall s tree else r.accessorType s tree⟩]
      else []
    | none => []
  | .index .. => []
  | .start _ => []

/-- The members of a class without the heads and bodies that do not count: of a method of several
heads, the one with code; of a getter and a setter, the setter. -/
def countingMembers (members : List ClassMember) : List ClassMember :=
  let methodName (m : ClassMember) : Option (Text × Bool × Bool) :=
    match m with
    | .method modifiers _ name tree =>
      name.text?.map fun text => (text, modifiers.isStatic, tree.isBodied)
    | _ => none
  let getters := members.filterMap fun m =>
    match m with
    | .method modifiers _ name { kind := .getter, .. } =>
      name.text?.map fun text => (text, modifiers.isStatic)
    | _ => none
  members.filter fun m =>
    match m with
    | .method modifiers _ name tree =>
      match name.text? with
      | some text =>
        if tree.kind = .setter then !getters.contains (text, modifiers.isStatic)
        else
          !(tree.isBodied && members.any fun other =>
            methodName other == some (text, modifiers.isStatic, false))
      | none => true
    | _ => true

/-- The shape that a class itself gives to its instances, or with `isStatic` to itself. -/
def classShape (r : Resolver) (s : Scope) (home : Home) (isStatic : Bool) (tree : ClassTree) : Shape :=
  { Shape.empty with
    properties := joinMethods
      ((countingMembers tree.members).flatMap (r.classProperties s home isStatic))
    indexes := tree.members.filterMap fun m =>
      match m with
      | .index static (.index _ isReadonly key type) =>
        if static = isStatic then some ⟨isReadonly, r.type s key, r.type s type⟩ else none
      | _ => none
    isKnown := tree.members.all fun m =>
      match m with
      | .field _ _ name _ _ => name.text?.isSome
      | .method _ _ name _ => name.text?.isSome
      | _ => true }

/-- The constructors that a class declares. -/
def constructorsOf (tree : ClassTree) : List FunctionTree :=
  callableTrees (tree.members.filterMap fun m =>
    match m with
    | .method _ _ _ tree => if tree.kind = .constructor then some tree else none
    | _ => none)

/-- A shape that every one of some types has: the properties that all of them have. -/
def sharedShape (strict : Bool) (shapes : List Shape) : Shape :=
  match shapes with
  | [] => .empty
  | first :: rest =>
    let common := first.properties.filter fun p => rest.all fun o => (o.property? p.name).isSome
    { properties := common.map fun p =>
        let all := p :: rest.filterMap (·.property? p.name)
        { p with
          isOptional := all.any (·.isOptional)
          isReadonly := all.any (·.isReadonly)
          owner := all.findSome? (·.owner)
          type := Thunk.mk fun _ => .unionOf strict (all.map fun p => p.type.get) }
      calls := []
      constructs := []
      indexes :=
        if rest.all fun o => !o.indexes.isEmpty then
          first.indexes.filterMap fun index =>
            let others := rest.filterMap fun o => o.indexes.find? (·.key.isLike index.key)
            if others.length = rest.length then
              some { index with type := .unionOf strict (index.type :: others.map (·.type)) }
            else none
        else []
      isKnown := shapes.all (·.isKnown) }

/-- Whether a type is a primitive one. -/
def isPrimitive (type : SourceType) : Bool :=
  [SourceType.string, .number, .integer, .boolean, .symbol, .null, .undefined, .void].any type.isLike

/-- The intersection of single types. -/
def intersectionOfSingles (types : List SourceType) : SourceType :=
  let flat := types.flatMap fun type =>
    match type.meaning with
    | .intersection members => members
    | _ => [type]
  let flat := SourceType.distinct (flat.filter fun type => !type.isLike .unknown)
  let primitives := flat.filter isPrimitive
  let units := flat.filter SourceType.isUnit
  let bases := (primitives ++ (units.map SourceType.base)).map fun type =>
    match type.wrapper? with
    | some name => name
    | none => type.key
  let isEmpty (type : SourceType) : Bool := match type with | .record [] => true | _ => false
  if flat.any SourceType.isAny then .any
  else if flat.any (·.isLike .never) || 1 < units.length || 1 < bases.eraseDups.length
      || (flat.any isEmpty && flat.any SourceType.isNothing) then .never
  else
    let flat := if units.isEmpty then flat else flat.filter fun type => !isPrimitive type
    let flat := if flat.all isEmpty || flat.any SourceType.isParameter then flat
      else flat.filter fun type => !isEmpty type
    match flat with
    | [] => .unknown
    | [single] => single
    | several => .intersection several

/-- **The intersection of some types**; that of unions is the union of the intersections. -/
def intersectionOf (strict : Bool) (types : List SourceType) : SourceType :=
  let choices := types.foldr (fun type choices =>
    type.alternatives.flatMap fun one => choices.map (one :: ·)) [[]]
  match choices with
  | [_] => intersectionOfSingles types
  | choices => .unionOf strict (choices.map intersectionOfSingles)

/-- A shape that has what all of some shapes have. -/
def joinedShape (strict : Bool) (shapes : List Shape) : Shape :=
  let all := shapes.flatMap (·.properties)
  let names := (all.map (·.name)).eraseDups
  { properties := names.filterMap fun name =>
      let own := all.filter (·.name = name)
      own.head?.map fun first =>
        { first with
          isOptional := own.all (·.isOptional)
          isReadonly := own.all (·.isReadonly)
          type := match own with
            | [single] => single.type
            | several => Thunk.mk fun _ => intersectionOf strict (several.map fun p => p.type.get) }
    calls := shapes.flatMap (·.calls)
    constructs := shapes.flatMap (·.constructs)
    indexes := shapes.flatMap (·.indexes)
    isKnown := shapes.all (·.isKnown) }

/-- The keys and the length of a tuple as properties. -/
def tupleProperties (isReadonly : Bool) (items : List TupleType) : List Property :=
  let places := (List.range items.length).zip items
  let fixed := places.takeWhile fun (_, item) => !item.isRest
  let least := (items.takeWhile fun item => !item.isOptional && !item.isRest).length
  let hasRest := items.any (·.isRest)
  let lengths : SourceType :=
    if hasRest then .number
    else .unionOf true ((List.range' least (items.length - least + 1)).map fun n =>
      .literal (.number (.ofNat n)) false)
  (fixed.map fun (place, item) =>
    ⟨Text.ofNat place, item.isOptional, isReadonly, false, none, Thunk.pure item.type⟩)
    ++ [⟨"length", false, true, false, none, Thunk.pure lengths⟩]

/-- The elements of a tuple as one type. -/
def tupleElement (strict : Bool) (items : List TupleType) : SourceType :=
  .unionOf strict (items.map fun item =>
    match item.isRest, item.type.meaning with
    | true, .array _ element => element
    | true, _ => .other
    | false, _ => item.type)

/-- The names that an expression goes along, if it is made of names alone. -/
def namePath? : Expression → Option (List Text)
  | .name _ name => some [name]
  | .member container _ name false => (namePath? container).map fun path => path ++ [name]
  | .group _ inner => namePath? inner
  | _ => none

/-- The class that an expression stands for by its name: its home, its type parameters and the scope
of its declaration. -/
def baseClass? (s : Scope) (base : Expression) : Option (Home × Text × List TypeFormal × Scope) :=
  match (namePath? base).bind (s.findPath .value) with
  | some (.declared outer name declarations) =>
    declarations.findSome? fun d =>
      match d with
      | .class tree => some (outer.homeOf declarations, name, tree.typeFormals, outer)
      | _ => none
  | _ => none

mutual

/-- The shape of the type with a home, whose `this` is `receiver`. -/
def homeShape (r : Resolver) (s : Scope) (receiver : SourceType) (home : Home) (name : Text)
    (arguments : List SourceType) : (limit : Nat) → Shape
  | 0 => .unknown
  | limit + 1 =>
    match s.declaredAt home name with
    | none => .unknown
    | some (outer, declarations) =>
      let outer := { outer with resolving := [], inferring := s.inferring, values := s.values }
      let shapes := declarations.filterMap fun d =>
        let inner := (r.binding outer d arguments).within (.types [⟨"this", receiver⟩])
        match d with
        | .alias site _ tree =>
          let resolving := { inner with resolving := [outer.home site] }
          some (shapeOf r s (r.type resolving tree) limit)
        | .interface _ _ bases members =>
          let own := r.writtenShape inner members
          some (bases.foldl (fun shape base =>
            shape.inheriting (baseShape r s receiver (r.type inner base) limit)) own)
        | .class tree =>
          let own := r.classShape inner home false tree
          match tree.base with
          | none => some own
          | some base =>
            some (own.inheriting
              (baseShape r s receiver (instanceOf r inner base tree.baseArguments limit) limit))
        | _ => none
      match shapes with
      | [] => .unknown
      | [single] => single
      | several =>
        { properties := joinMethods (several.flatMap (·.properties))
          calls := several.flatMap (·.calls)
          constructs := several.flatMap (·.constructs)
          indexes := several.flatMap (·.indexes)
          isKnown := several.all (·.isKnown) }

/-- The shape of a base, whose `this` is `receiver`. -/
def baseShape (r : Resolver) (s : Scope) (receiver base : SourceType) : (limit : Nat) → Shape
  | 0 => .unknown
  | limit + 1 =>
    match base.meaning with
    | .named home name arguments => homeShape r s receiver home name arguments limit
    | type => shapeOf r s type limit

/-- The type of the instances of what a class is based on. -/
def instanceOf (r : Resolver) (s : Scope) (base : Expression) (arguments : List TypeTree) :
    (limit : Nat) → SourceType
  | 0 => .other
  | limit + 1 =>
    match baseClass? s base with
    | some (home, name, formals, outer) =>
      .named home name
        ((r.bindArguments outer formals (arguments.map (r.type s))).map (·.type))
    | none =>
      match (shapeOf r s (r.expression s none base) limit).constructs with
      | call :: _ =>
        match call.result, arguments with
        | .named home name _, _ :: _ => .named home name (arguments.map (r.type s))
        | result, _ => result
      | [] => .other

/-- **What the values of a type have.** -/
def shapeOf (r : Resolver) (s : Scope) (type : SourceType) : (limit : Nat) → Shape
  | 0 => .unknown
  | limit + 1 =>
    match type with
    | .alias _ _ _ meaning => shapeOf r s meaning limit
    | .unknown => .empty
    | .never => .empty
    | .void => .empty
    | .undefined => .empty
    | .null => .empty
    | .object => .empty
    | .array isReadonly element =>
      homeShape r s type .always (if isReadonly then "ReadonlyArray" else "Array") [element] limit
    | .tuple isReadonly items =>
      { Shape.empty with properties := tupleProperties isReadonly items }.inheriting
        (homeShape r s type .always (if isReadonly then "ReadonlyArray" else "Array")
          [tupleElement s.strict items] limit)
    | .callable calls => { Shape.empty with calls }
    | .constructable _ call => { Shape.empty with constructs := [call] }
    | .record members => .ofMembers members
    | .union members _ => sharedShape s.strict (members.map fun one => shapeOf r s one limit)
    | .intersection members => joinedShape s.strict (members.map fun one => shapeOf r s one limit)
    | .named home name arguments => homeShape r s type home name arguments limit
    | .parameter _ _ (some bound) => shapeOf r s bound limit
    | .parameter _ _ none => .empty
    | .valueOf home name => valueShape r s home name limit
    | .moduleValue path =>
      { Shape.empty with
        properties := (s.program.exportedNames path).filterMap fun name =>
          match s.ofEntity (s.program.exported path name) with
          | .missing => none
          | found =>
            some ⟨name, false, true, false, none, Thunk.mk fun _ => foundType r s found limit⟩ }
    | type =>
      match type.wrapper? with
      | some name => homeShape r s type .always name [] limit
      | none => .unknown

/-- The shape of a class, an enumeration or a namespace as a value. -/
def valueShape (r : Resolver) (s : Scope) (home : Home) (name : Text) : (limit : Nat) → Shape
  | 0 => .unknown
  | limit + 1 =>
    match s.declaredAt home name with
    | none => .unknown
    | some (outer, declarations) =>
      let outer := { outer with resolving := [], inferring := s.inferring, values := s.values }
      joinedShape s.strict (declarations.filterMap fun d =>
        match d with
        | .class tree =>
          let (inner, typeFormals) := r.bindFormals outer tree.typeFormals
          let made : SourceType :=
            .named home name (typeFormals.map fun f => .parameter f.home f.name f.bound)
          let static := outer.within (.types [⟨"this", .valueOf home name⟩])
          let own := r.classShape static home true tree
          let base := match tree.base with
            | some base => shapeOf r s (r.expression outer none base) limit
            | none => .empty
          let constructs := match constructorsOf tree with
            | [] =>
              if tree.base.isNone then [⟨typeFormals, none, [], made, none, false⟩]
              else
                base.constructs.map fun call =>
                  let kept := if tree.baseArguments.isEmpty then call.typeFormals else []
                  { call with typeFormals := typeFormals ++ kept, result := made }
            | trees =>
              trees.map fun tree =>
                { r.function (inner.within (.types [⟨"this", made⟩])) none { tree with body := .absent }
                  with typeFormals, result := made, predicate := none }
          let whole : Property := ⟨"prototype", false, true, false, none,
            Thunk.pure (.named home name (typeFormals.map fun _ => .any))⟩
          some { (own.inheriting { base with constructs := [] }) with
            properties := (own.inheriting base).properties ++ [whole]
            constructs }
        | .enumeration _ members =>
          let all := enumValues members
          let isText := all.any fun (_, value) => match value with | some (.text _) => true | _ => false
          some { Shape.empty with
            properties := all.map (enumProperty home name all)
            indexes := if isText then [] else [⟨true, .number, .string⟩] }
        | .space _ body =>
          let declared := body.flatMap Statement.declared
          let inner := outer.within (.block declared)
          let names := (declared.filter fun (_, d) => d.isValue).map (·.1)
          some { Shape.empty with
            properties := names.eraseDups.filterMap fun own =>
              match inner.ofDeclarations? .value own ((declared.filter (·.1 = own)).map (·.2)) with
              | some found =>
                some ⟨own, false, true, false, none, Thunk.mk fun _ => foundType r s found limit⟩
              | none => none }
        | _ => none)

/-- The type of the value that something found is. -/
def foundType (r : Resolver) (s : Scope) (found : Found) : (limit : Nat) → SourceType
  | 0 => .other
  | limit + 1 =>
    match found with
    | .type _ => .other
    | .known => .other
    | .missing => .any
    | .whole path => .moduleValue path
    | .value path expression =>
      r.expression { (s.inside path []) with resolving := [] } none expression
    | .declared outer name declarations =>
      let outer := { outer with inferring := s.inferring, values := s.values, resolving := [] }
      valueOf r outer name declarations limit

/-- The type of a part of a value. -/
def partOf (r : Resolver) (s : Scope) (whole : SourceType) (key : PartKey)
    (default : Option Expression) : (limit : Nat) → SourceType
  | 0 => .other
  | limit + 1 =>
    let type : SourceType :=
      match key with
      | .member name =>
        let key? : Option Text :=
          match name with
          | .known _ name => some name
          | .computed _ key => (r.expression s none key).keyName?
        match key? with
        | some name =>
          let shape := shapeOf r s whole limit
          match shape.property? name with
          | some p => p.type.get
          | none =>
            match shape.indexes.find? (·.key.isLike .string) with
            | some index => index.type
            | none => .other
        | none => .other
      | .element place =>
        match whole.meaning with
        | .array _ element => element
        | .tuple _ items =>
          let fixed := items.takeWhile fun item => !item.isRest
          match fixed[place]? with
          | some item => item.type
          | none =>
            if items.any (·.isRest) then tupleElement s.strict (items.drop fixed.length)
            else .undefined
        | .string => .string
        | _ => .other
      | .otherMembers taken =>
        match whole.meaning with
        | .array _ element => .array false element
        | .tuple _ items => .tuple false items
        | type =>
          if type.isAny then .any
          else
            let shape := shapeOf r s type limit
            if shape.isKnown then
              .record ((shape.properties.filter fun p =>
                !taken.contains p.name && !p.isMethod && p.owner.isNone).map fun p =>
                .property p.name p.isOptional false p.type.get)
            else .other
      | .otherElements taken =>
        match whole.meaning with
        | .array _ element => .array false element
        | .tuple _ items => Resolver.tupleOf (items.drop taken)
        | _ => .other
    match default with
    | some value =>
      .unionOf s.strict [type.defined s.strict, (r.expression s (some type) value).widened s.strict]
    | none => type

/-- **The type of the value that a name is declared as**, in the scope of its declarations. -/
def valueOf (r : Resolver) (s : Scope) (name : Text) (declarations : List Declaration) :
    (limit : Nat) → SourceType
  | 0 => .other
  | limit + 1 =>
    let functions := functionsOf declarations
    let hasSpace := declarations.any fun d =>
      match d with
      | .space .. => d.isValue
      | _ => false
    let space : SourceType := .valueOf (s.homeOf declarations) name
    match functions with
    | _ :: _ =>
      let calls : SourceType :=
        .callable ((callableTrees functions).flatMap fun tree => (r.functionCall s tree).ownCalls)
      if hasSpace then .intersection [calls, space] else calls
    | [] =>
      match declarations.find? (·.isValue) with
      | some (.variable site kind d) =>
        match d.pattern, d.type, d.value with
        | .name .., some type, _ => r.type s type
        | .name .., none, some value =>
          if s.takesOn site kind d then .any
          else if s.fillsLater site value then .array false .other
          else inferring s site fun s =>
            let type := r.expression s none value
            match type, kind with
            | .literal value fresh, .constant => .literal value fresh
            | .enumMember home whole name value fresh all, .constant =>
              .enumMember home whole name value fresh all
            | type, _ => type.widened s.strict
        | .name .., none, none => .any
        | pattern, type, value =>
          inferring s site fun s =>
            let whole : SourceType :=
              match type, value with
              | some type, _ => r.type s type
              | none, some value =>
                let own := pattern.ownType fun e => (r.expression s none e).widened s.strict
                (r.expression s (some own) value).withMissing own
              | none, none => .any
            let parts :=
              pattern.bind (fun whole key default => partOf r s whole key default limit) whole
            match parts.find? fun (n, _) => n.site.offset = site.offset with
            | some (_, type) => if kind = .constant then type else type.widened s.strict
            | none => .other
      | some (.bound site ..) => (s.values.lookup (s.home site)).getD .other
      | some (.class _) => space
      | some (.enumeration ..) => space
      | some (.space ..) => space
      | _ => .other

end

end Resolver

end Turnstile.Source
