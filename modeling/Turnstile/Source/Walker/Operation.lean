import Turnstile.Source.Walker.Member

/-! # Operations and assignments

* **`Walker.binary`** and **`Walker.unary`** are operations on values.
* **`Walker.assign`** holds what is assigned against what the target takes; behind it, the value is
  known. -/

namespace Turnstile.Source.Walker

/-- Whether the values of a type are all of the primitive type with a name. -/
def isAllOf (wrapper : Text) (type : SourceType) : Bool :=
  !type.isAny && !type.isLike .never
    && type.alternatives.all fun one =>
      one.wrapper? == some wrapper
        || match one with
          | .parameter _ _ (some bound) => bound.alternatives.all fun b => b.wrapper? == some wrapper
          | _ => false

/-- Whether a type is that of a text. -/
def isTextual (type : SourceType) : Bool := isAllOf "String" type

/-- Whether a type is that of an integer without bound. -/
def isIntegral (type : SourceType) : Bool := isAllOf "BigInt" type

/-- Whether a type is that of a number. -/
def isNumeric (type : SourceType) : Bool := isAllOf "Number" type

/-- The operators that say whether something holds. -/
def testOperators : List Text :=
  (["==", "!=", "===", "!==", "<", ">", "<=", ">=", "in", "instanceof"] : List String).map Text.ofString

/-- The operators that need values that are there. -/
def presentOperators : List Text :=
  (["-", "*", "/", "%", "**", "<<", ">>", ">>>", "&", "|", "^", "<", ">", "<=", ">="] : List String).map
    Text.ofString

/-- An operation on two values. -/
def operationType (operator : Text) (left right : SourceType) : SourceType :=
  if testOperators.contains operator then .boolean
  else if operator == "+" then
    if isTextual left || isTextual right then .string
    else if isIntegral left && isIntegral right then .integer
    else if isNumeric left && isNumeric right then .number
    else if left.isOther || right.isOther then .other
    else if left.isAny || right.isAny then .any
    else .other
  else if isIntegral left && isIntegral right then .integer
  else if (left.isAny && isIntegral right) || (right.isAny && isIntegral left) then .integer
  else .number

/-- An operation on two values that were walked over, with reports of values that may be missing. -/
def operate (place : Place) (operator : Text) (left right : Expression) (a b : SourceType) :
    Walk SourceType := do
  let checks := presentOperators.contains operator
    || (operator == "+" && !isTextual a && !isTextual b)
  let a ← if checks then presentType place left a else pure a
  let b ← if checks then presentType place right b else pure b
  return operationType operator a b

/-- **An operation walked over.** -/
def binary (w : Walker) (place : Place) (wanted : Option SourceType) (left : Expression)
    (operator : Text) (right : Expression) : Walk SourceType := do
  let strict := place.scope.strict
  if operator == "&&" || operator == "||" then
    let outcome ← w.condition place wanted (.binary left operator right)
    Walk.goOnFrom strict [outcome.whenTrue, outcome.whenFalse]
    return outcome.type
  else if operator == "??" then
    let a ← w.expression place wanted left
    let start ← Walk.flow
    w.narrow place left fun type => Narrowing.cut strict type SourceType.isNothing
    let b ← w.expression place (wanted.or (some a)) right
    let other ← Walk.flow
    Walk.goOn start
    w.narrow place left (SourceType.present strict)
    let one ← Walk.flow
    Walk.goOnFrom strict [one, other]
    return choiceType strict operator a b
  else if operator == "," then
    let _ ← w.expression place none left
    w.expression place wanted right
  else
    let a ← w.expression place none left
    let b ← w.expression place none right
    operate place operator left right a b

/-- The words that `typeof` gives. -/
def typeWords : SourceType :=
  .unionOf true ((["string", "number", "bigint", "boolean", "symbol", "undefined", "object",
    "function"] : List String).map fun word => .literal (.text (Text.ofString word)) false)

/-- **An operation on one value walked over.** -/
def unary (w : Walker) (place : Place) (wanted : Option SourceType) (operator : Text)
    (operand : Expression) : Walk SourceType := do
  if operator == "!" then
    let outcome ← w.condition place none (.unary operand.site operator operand)
    Walk.goOnFrom place.scope.strict [outcome.whenTrue, outcome.whenFalse]
    return outcome.type
  else if operator == "await" then
    let wanted := wanted.map fun type =>
      SourceType.unionOf place.scope.strict [type, .standard "PromiseLike" [type]]
    let type ← w.expression place wanted operand
    return w.resolver.awaitedNamed (← Walk.scope place) type
  else
    let type ← w.expression place none operand
    if operator == "delete" then return .boolean
    else if operator == "typeof" then return typeWords
    else if operator == "void" then return .undefined
    else
      match operand, operator == "-", operator == "+" with
      | .literal _ (.number value), true, _ => return .literal (.number value.neg) true
      | .literal _ (.number value), _, true => return .literal (.number value) true
      | .literal _ (.integer value), true, _ => return .literal (.integer (-value)) true
      | _, _, _ =>
        let type ← presentType place operand type
        return if isIntegral type && operator != "+" then .integer else .number

/-! ## Assignments -/

/-- Whether a name is that of a variable which takes on the type of what is assigned to it. -/
def takesOn (s : Scope) (name : Text) : Bool :=
  match variableNamed? s name with
  | some (outer, .variable site kind d) => outer.takesOn site kind d
  | _ => false

/-- What a declared type comes to where a value of some type is assigned: of a union, the
alternatives that the value may be. -/
def assignedType (r : Resolver) (s : Scope) (declared given : SourceType) : SourceType :=
  match declared.alternatives with
  | [_] => declared
  | all =>
    if given.isAny then declared
    else
      let kept := all.filter fun one => given.alternatives.any fun value => r.isFit s value one
      let left : SourceType := .unionOf s.strict kept
      if kept.isEmpty || !r.isFit s given left then declared
      else if kept.length = all.length then declared else left

/-- The value of a variable, or of a member, is known from here. -/
def knowAssigned (w : Walker) (place : Place) (target : Expression) (declared given : SourceType) :
    Walk Unit := do
  match reference? place target with
  | none => pure ()
  | some reference =>
    let s ← Walk.scope place
    Walk.forget reference
    let isTaken := match target.bare with
      | .name _ name => takesOn s name
      | _ => false
    if isTaken then Walk.know reference (given.widened s.strict)
    else
      let type := assignedType w.resolver s declared given
      if !type.isLike declared then Walk.know reference type

/-- What is assigned to walked over: the type that it takes, if it can be assigned to. -/
def target (w : Walker) (place : Place) (e : Expression) : Walk (Option SourceType) := do
  match e with
  | .name site name =>
    match ← w.declaredType? place name with
    | none =>
      reportUnknown place site name
      return none
    | some declared =>
      if isConstant place.scope name then
        Walk.report site ("Cannot assign to '" ++ name ++ "' because it is a constant.")
        return none
      return some declared
  | .member container site name isOptional => do
    let (type, _) ← w.member place false container site name isOptional
    return some type
  | .element container index isOptional => do
    let (type, _) ← w.element place false container index isOptional
    return some type
  | .group _ inner => target w place inner
  | .nonNull inner => target w place inner
  | e =>
    let _ ← w.expression place none e
    return none

/-- A value of some type put into what is assigned to, part by part; looked into as deep as given. -/
def assignParts (w : Walker) (place : Place) : (limit : Nat) → Expression → SourceType → Walk Unit
  | 0, _, _ => pure ()
  | limit + 1, e, given => do
    let s ← Walk.scope place
    match e with
    | .array _ elements =>
      for (number, element) in (List.range elements.length).zip elements do
        match element with
        | .hole _ => pure ()
        | .spread _ rest => assignParts w place limit rest (.array false .other)
        | element =>
          assignParts w place limit element
            (w.resolver.partOf s given (.element number) none w.resolver.limit)
    | .record _ items =>
      for item in items do
        match item with
        | .property name value =>
          assignParts w place limit value
            (w.resolver.partOf s given (.member name) none w.resolver.limit)
        | .short site name _ =>
          assignParts w place limit (.name site name)
            (w.resolver.partOf s given (.member (.known site name)) none w.resolver.limit)
        | .spread rest => assignParts w place limit rest .other
        | .method .. => pure ()
    | .assign inner operator value =>
      if operator == "=" then
        let default ← w.expression place (some given) value
        assignParts w place limit inner (.unionOf s.strict [given.defined s.strict, default])
      else pure ()
    | .group _ inner => assignParts w place limit inner given
    | e =>
      match ← w.target place e with
      | some declared =>
        w.fit place e.site none given declared
        w.knowAssigned place e declared given
      | none => pure ()

/-- Whether an expression that is assigned to takes the value apart. -/
def isPattern : Expression → Bool
  | .array .. => true
  | .record .. => true
  | .group _ inner => isPattern inner
  | _ => false

/-- **An assignment walked over**; `isUsed` says whether its value is used. -/
def assign (w : Walker) (place : Place) (isUsed : Bool) (e : Expression) (operator : Text)
    (value : Expression) : Walk SourceType := do
  let strict := place.scope.strict
  if operator == "=" then
    if isPattern e then
      let given ← w.expression place none value
      w.assignParts place 32 e given
      return given
    match ← w.target place e with
    | none =>
      w.expression place none value
    | some declared =>
      let s ← Walk.scope place
      let isTaken := match e.bare with
        | .name _ name => takesOn s name
        | _ => false
      let given ← w.expression place (if isTaken then none else some declared) value
      if !isTaken then w.fit place e.site (some value) given declared
      w.knowAssigned place e declared given
      return given
  else
    let before ← get
    let declared? ← w.target place e
    match declared? with
    | none =>
      let given ← w.expression place none value
      return given
    | some declared =>
      let seen ← get
      set { seen with reports := before.reports }
      let now ← w.expression place none e
      let after ← get
      set { after with
        reports := after.reports, reads := if isUsed then after.reads else seen.reads }
      let plain : Text := operator.take (operator.length - 1)
      if plain == "&&" || plain == "||" || plain == "??" then
        let start ← Walk.flow
        let change (goesOn : Bool) (type : SourceType) : SourceType :=
          if plain == "??" then
            if goesOn then Narrowing.cut strict type SourceType.isNothing else type.present strict
          else Narrowing.truth strict ((plain == "&&") == goesOn) type
        w.narrow place e (change true)
        let given ← w.expression place (some declared) value
        w.fit place e.site (some value) given declared
        w.knowAssigned place e declared given
        let assigned ← Walk.flow
        Walk.goOn start
        w.narrow place e (change false)
        let kept ← Walk.flow
        Walk.goOnFrom strict [assigned, kept]
        return choiceType strict plain now given
      else
        let b ← w.expression place none value
        let given ← operate place plain e value now b
        w.fit place e.site none given declared
        w.knowAssigned place e declared given
        return given

/-- A step up or down walked over; `isUsed` says whether its value is used. -/
def step (w : Walker) (place : Place) (isUsed : Bool) (e : Expression) : Walk SourceType := do
  match e with
  | .name site name =>
    let before ← get
    let type ← w.nameType place site name
    if !isUsed then modify fun found => { found with reads := before.reads }
    if isConstant place.scope name then
      Walk.report site ("Cannot assign to '" ++ name ++ "' because it is a constant.")
      return .number
    let type ← presentType place e type
    let given : SourceType := if isIntegral type then .integer else .number
    match ← w.declaredType? place name with
    | some declared => w.knowAssigned place e declared given
    | none => pure ()
    return given
  | e =>
    let type ← w.expression place none e
    let type ← presentType place e type
    let given : SourceType := if isIntegral type then .integer else .number
    match reference? place e with
    | some reference => Walk.forget reference
    | none => pure ()
    return given

end Turnstile.Source.Walker
