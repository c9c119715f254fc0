import Turnstile.Source.Walker.Basic

/-! # What tests leave of types

What is left of the type of a value once a test of it holds, or does not.

* **`Narrowing.truth`**: the value counts as true.
* **`Narrowing.word`**: the word for its type is a given one.
* **`Narrowing.equality`**: it is equal to a value.
* **`Narrowing.ofClass`** and **`Narrowing.asserted`**: it is an instance of a class, or of a type.
* **`Narrowing.presence`**: it has a member. -/

namespace Turnstile.Source.Narrowing

/-- Whether a single value counts as false. -/
def isFalseValue : Literal → Bool
  | .text value => value.isEmpty
  | .number value => value.isNaN || value.toInt? == some 0
  | .integer value => value = 0
  | .boolean value => !value

/-- Whether a value of a single type may count as true. -/
def mayBeTrue : SourceType → Bool
  | .undefined => false
  | .null => false
  | .void => false
  | .never => false
  | .literal value _ => !isFalseValue value
  | .enumMember _ _ _ (some value) _ _ => !isFalseValue value
  | _ => true

/-- Whether a value of a single type may count as false. -/
def mayBeFalse (type : SourceType) : Bool :=
  match type.meaning with
  | .literal value _ => isFalseValue value
  | .enumMember _ _ _ (some value) _ _ => isFalseValue value
  | .record [] => true
  | .never => false
  | .object => false
  | .array .. => false
  | .tuple .. => false
  | .callable _ => false
  | .constructable .. => false
  | .record _ => false
  | .named .. => false
  | .valueOf .. => false
  | .moduleValue _ => false
  | .intersection _ => false
  | .symbol => false
  | _ => true

/-- What is left of a type by a choice among its alternatives. -/
def cut (strict : Bool) (type : SourceType) (keep : SourceType → Bool) : SourceType :=
  let all := type.alternatives
  if all.all keep then type else .unionOf strict (all.filter keep)

/-- **What is left where a value counts as true**, or does not. -/
def truth (strict : Bool) (holds : Bool) (type : SourceType) : SourceType :=
  match type.meaning with
  | .unknown => if holds then .record [] else .unknown
  | meaning =>
    if meaning.isAny then type
    else if holds then cut strict type mayBeTrue
    else cut strict type mayBeFalse

/-! ## Words for types -/

/-- The word for the type of the values of a single type, if there is one word. -/
def word? (r : Resolver) (s : Scope) (type : SourceType) : Option Text :=
  match type.meaning with
  | .undefined => some "undefined"
  | .void => some "undefined"
  | .null => some "object"
  | .symbol => some "symbol"
  | .integer => some "bigint"
  | .literal (.integer _) _ => some "bigint"
  | .boolean => some "boolean"
  | .literal (.boolean _) _ => some "boolean"
  | .callable _ => some "function"
  | .constructable .. => some "function"
  | .array .. => some "object"
  | .tuple .. => some "object"
  | .record [] => none
  | .record members =>
    let isCalled (m : MemberType) : Bool :=
      match m with
      | .call _ => true
      | .construct _ => true
      | _ => false
    some (if members.any isCalled then "function" else "object")
  | .named home name arguments =>
    let type : SourceType := .named home name arguments
    let shape := r.shape s type
    if Resolver.isStandard type "Function" then some "function"
    else if Resolver.isStandard type "Object" then none
    else some (if shape.calls.isEmpty && shape.constructs.isEmpty then "object" else "function")
  | .valueOf home name =>
    let shape := r.shape s (.valueOf home name)
    some (if shape.calls.isEmpty && shape.constructs.isEmpty then "object" else "function")
  | .moduleValue _ => some "object"
  | type =>
    match type.wrapper? with
    | some name =>
      if name == "String" then some "string" else if name == "Number" then some "number" else none
    | none => none

/-- The type of the values that a word stands for. -/
def wordType? (word : Text) : Option SourceType :=
  if word == "string" then some .string
  else if word == "number" then some .number
  else if word == "bigint" then some .integer
  else if word == "boolean" then some .boolean
  else if word == "symbol" then some .symbol
  else if word == "undefined" then some .undefined
  else if word == "object" then some .object
  else if word == "function" then some (.standard "Function" [])
  else none

/-- **What is left where the word for the type of a value is a given one**, or is not. -/
def word (r : Resolver) (s : Scope) (holds : Bool) (word : Text) (type : SourceType) : SourceType :=
  match wordType? word with
  | none => type
  | some implied =>
    let isComposed := word == "object" || word == "function"
    match type.meaning with
    | .unknown =>
      if !holds then .unknown
      else if word == "object" then .unionOf s.strict [.object, .null]
      else implied
    | meaning =>
      if meaning.isAny then if holds && !isComposed then implied else type
      else if holds then
        .unionOf s.strict (type.alternatives.filterMap fun one =>
          match word? r s one with
          | some own => if own = word then some one else none
          | none =>
            match one.meaning with
            | .never => none
            | .object =>
              if word == "object" then some one
              else if word == "function" then some implied
              else none
            | .record [] => some implied
            | .named .. => some implied
            | .enumeration .. => some one
            | _ => some (Resolver.intersectionOf s.strict [one, implied]))
      else cut s.strict type fun one => word? r s one != some word

/-! ## Equality -/

/-- Whether a value of one type may be equal to one of another type. -/
def areComparable (r : Resolver) (s : Scope) (a b : SourceType) : Bool :=
  a.alternatives.any fun x => b.alternatives.any fun y =>
    if x.isNothing || y.isNothing then x.isLike y || x.isAny || y.isAny || x.isLike .unknown
      || y.isLike .unknown
    else r.isFit s x y || r.isFit s y x

/-- A type with its primitive types as the single values that a value may be. -/
def asValues (strict : Bool) (type value : SourceType) : SourceType :=
  let values := value.alternatives
  let own (base : SourceType) : List SourceType :=
    values.filter fun one =>
      match one with
      | .literal literal _ => (SourceType.literalBase literal).isLike base
      | _ => false
  let all := type.alternatives.flatMap fun one =>
    match one with
    | .string => match own .string with | [] => [one] | found => found
    | .number => match own .number with | [] => [one] | found => found
    | .integer => match own .integer with | [] => [one] | found => found
    | one => [one]
  if all.length = type.alternatives.length
    && (all.zip type.alternatives).all fun (x, y) => x.isLike y then
    type
  else .unionOf strict (all.map SourceType.settled)

/-- **What is left where a value is equal to one of another type**, or is not. With `isLoose`,
`null` and `undefined` are equal. -/
def equality (r : Resolver) (s : Scope) (holds isLoose : Bool) (value type : SourceType) : SourceType :=
  if type.isAny then type
  else
    let isMissing (one : SourceType) : Bool :=
      if isLoose then one.isNothing || one.isLike .void
      else one.isLike value || (value.isLike .undefined && one.isLike .void)
    if value.meaning.isNothing then
      if !s.strict then type
      else
        match type.meaning with
        | .unknown =>
          if holds then if isLoose then .unionOf s.strict [.null, .undefined] else value else type
        | _ => cut s.strict type fun one => isMissing one == holds || one.isAny || one.isOpen
    else if holds then
      match type.meaning with
      | .unknown =>
        if value.isSimple || value.alternatives.all SourceType.isSimple then value.settled
        else if value.isObject then .object else type
      | _ =>
        let kept := cut s.strict type fun one =>
          areComparable r s one value || (isLoose && one.isSimple && !one.isNothing)
        asValues s.strict kept value
    else if value.isUnit then
      cut s.strict type fun one => !(one.isUnit && areComparable r s one value)
    else type

/-! ## Instances and asserted types -/

/-- What the class or the interface of a type is based on. -/
def bases (r : Resolver) (s : Scope) (type : SourceType) : List SourceType :=
  match type.meaning with
  | .named home name arguments =>
    match s.declaredAt home name with
    | none => []
    | some (outer, declarations) =>
      let outer := { outer with resolving := [], values := s.values }
      declarations.flatMap fun d =>
        let inner := r.binding outer d arguments
        match d with
        | .class tree =>
          tree.base.toList.map fun base =>
            Resolver.instanceOf r inner base tree.baseArguments r.limit
        | .interface _ _ bases _ => bases.map (r.type inner)
        | _ => []
  | _ => []

/-- Whether a type is another one, or based on it, along at most as many steps as given. -/
def isDerived (r : Resolver) (s : Scope) (whole : SourceType) : (limit : Nat) → SourceType → Bool
  | 0, _ => false
  | limit + 1, type =>
    match type.meaning, whole.meaning with
    | .array isReadonly _, .array others _ => others || !isReadonly
    | .tuple .., .array .. => true
    | .callable _, whole => Resolver.isStandard whole "Function" || Resolver.isStandard whole "Object"
    | type, whole =>
      if Resolver.isStandard whole "Object" then type.isObject
      else
        match type, whole with
        | .named a own _, .named b name _ =>
          (a = b && own = name) || (bases r s type).any (isDerived r s whole limit)
        | .parameter _ _ (some bound), whole => isDerived r s whole limit bound
        | .intersection members, whole => members.any (isDerived r s whole limit)
        | .object, _ => false
        | type, whole => type.isLike whole

/-- Whether all values of a type are certainly values of another one. -/
def isPart (r : Resolver) (s : Scope) (type whole : SourceType) : Bool :=
  (!type.isAny || whole.isAny) && r.isFit s type whole

/-- What is left of a type where it is a candidate, given which types are part of which. -/
def toCandidate (r : Resolver) (s : Scope) (isWithin : SourceType → SourceType → Bool)
    (candidate type : SourceType) : SourceType :=
  match type.meaning with
  | .unknown => candidate
  | meaning =>
    if meaning.isAny then candidate
    else
      let found := candidate.alternatives.flatMap fun wanted =>
        type.alternatives.filterMap fun one =>
          if isWithin one wanted then some one
          else if isWithin wanted one then some wanted
          else none
      match found with
      | _ :: _ =>
        match SourceType.unionOf s.strict found with
        | left => if left.isLike type then type else if left.isLike candidate then candidate else left
      | [] =>
        if isPart r s candidate type then candidate
        else if r.isFit s type candidate then type
        else if r.isFit s candidate type then candidate
        else Resolver.intersectionOf s.strict [type, candidate]

/-- **What is left where a value is an instance of a class**, or is not. -/
def ofClass (r : Resolver) (s : Scope) (holds : Bool) (candidate type : SourceType) : SourceType :=
  let derives (one whole : SourceType) : Bool := isDerived r s whole 32 one
  if holds then toCandidate r s derives candidate type
  else if type.isAny || type.isLike .unknown then type
  else cut s.strict type fun one => !derives one candidate

/-- **What is left where a value is of a type**, or is not. -/
def asserted (r : Resolver) (s : Scope) (holds : Bool) (candidate type : SourceType) : SourceType :=
  if holds then toCandidate r s (isPart r s) candidate type
  else if type.isAny || type.isLike .unknown then type
  else
    let kept := toCandidate r s (isPart r s) candidate type
    cut s.strict type fun one => !(kept.alternatives.any one.isLike) && !isPart r s one candidate

/-! ## Members -/

/-- **What is left where a value has a member**, or does not. -/
def presence (r : Resolver) (s : Scope) (holds : Bool) (name : Text) (type : SourceType) : SourceType :=
  let all := type.alternatives
  let keep (one : SourceType) : Bool :=
    let shape := r.shape s one
    match shape.property? name with
    | some p => holds || p.isOptional
    | none => !holds || !shape.isKnown || !shape.indexes.isEmpty
  match all with
  | [one] =>
    if holds && one.isObject && (r.shape s one).isKnown && ((r.shape s one).property? name).isNone then
      .intersection [one, .alias .always "Record" [.literal (.text name) false, .unknown]
        (.record [.property name false false .unknown])]
    else type
  | _ => cut s.strict type keep

end Turnstile.Source.Narrowing
