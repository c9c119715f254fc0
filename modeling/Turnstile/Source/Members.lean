import Turnstile.Source.Shape

/-! # Members

What can be taken from the values of a type.

* **`Resolver.property?`** is one property, **`Resolver.elementAt?`** what is at a key.
* **`Resolver.iterated?`** is what a value is gone through by, **`Resolver.awaited`** what it comes to
  where it is waited for. -/

namespace Turnstile.Source.Resolver

/-- The shape of a type. -/
def shape (r : Resolver) (s : Scope) (type : SourceType) : Shape := shapeOf r s type r.limit

/-- The type of something found. -/
def found (r : Resolver) (s : Scope) (found : Found) : SourceType := foundType r s found r.limit

/-- The properties that all objects of a type have, or all functions, besides their own. -/
def commonProperty? (r : Resolver) (s : Scope) (type : SourceType) (shape : Shape) (name : Text) :
    Option Property :=
  let standard (own : Text) : Shape := homeShape r s type .always own [] r.limit
  let isFunction := !shape.calls.isEmpty || !shape.constructs.isEmpty
  match if isFunction then (standard "Function").property? name else none with
  | some found => some found
  | none => (standard "Object").property? name

/-- One property of several types together, of those that have it. -/
def sharedProperty? (strict : Bool) (found : List (Option Property)) : Option Property :=
  match found.mapM id with
  | some (first :: rest) =>
    let all := first :: rest
    some { first with
      isOptional := all.any (·.isOptional)
      isReadonly := all.any (·.isReadonly)
      type := Thunk.mk fun _ => .unionOf strict (all.map fun p => p.type.get) }
  | _ => none

/-- **The property of a type with a name.** -/
def property? (r : Resolver) (s : Scope) (name : Text) (type : SourceType) : Option Property :=
  let single (type : SourceType) : Option Property :=
    let shape := r.shape s type
    match shape.property? name with
    | some found => some found
    | none => if shape.isKnown then r.commonProperty? s type shape name else none
  match type.meaning with
  | .union members _ => sharedProperty? s.strict (members.map single)
  | type => single type

/-- The type of the property of a type with a name. -/
def propertyType? (r : Resolver) (s : Scope) (name : Text) (type : SourceType) : Option SourceType :=
  (r.property? s name type).map fun p => p.type.get

/-- The type at all keys of a kind. -/
def indexAt? (shape : Shape) (isNumeric : Bool) : Option SourceType :=
  let at? (key : SourceType) : Option SourceType :=
    (shape.indexes.find? fun index => index.key.alternatives.any (·.isLike key)).map (·.type)
  match if isNumeric then at? .number else none with
  | some found => some found
  | none => at? .string

/-- Whether a name is written as a number. -/
def isNumeral (name : Text) : Bool := !name.isEmpty && name.all Text.isDigit

/-- The type of what a type has under a name: a property, or what it has at all such keys. -/
def namedMember? (r : Resolver) (s : Scope) (type : SourceType) (name : Text) : Option SourceType :=
  match type.meaning with
  | .union members _ =>
    (members.mapM fun one =>
      match r.propertyType? s name one with
      | some found => some found
      | none => indexAt? (r.shape s one) (isNumeral name)).map (SourceType.unionOf s.strict)
  | type =>
    match r.property? s name type with
    | some found => some found.type.get
    | none => indexAt? (r.shape s type) (isNumeral name)

/-- The type of what a type has at a single key. -/
def plainElement? (r : Resolver) (s : Scope) (type key : SourceType) : Option SourceType :=
  match key.keyName? with
  | some name => r.namedMember? s type name
  | none =>
    let isNumeric := key.wrapper? == some "Number"
    let isTextual := key.wrapper? == some "String"
    let single (one : SourceType) : Option SourceType :=
      if isNumeric || isTextual then indexAt? (r.shape s one) isNumeric else none
    match type.meaning with
    | .union members _ => (members.mapM single).map (SourceType.unionOf s.strict)
    | type => single type

/-- **The type of what a type has at a key.** -/
def elementAt? (r : Resolver) (s : Scope) (type key : SourceType) : Option SourceType :=
  match key.meaning with
  | .union keys _ => (keys.mapM (r.plainElement? s type)).map (SourceType.unionOf s.strict)
  | key => r.plainElement? s type key

/-- The type of a member; nothing is known of one that is not found. -/
def memberType (r : Resolver) (s : Scope) (type : SourceType) (name : Text) : SourceType :=
  if type.isAny then (if type.isOther then .other else .any)
  else (r.namedMember? s type name).getD .other

/-- The ways to call a method of a type. -/
def methodCalls (r : Resolver) (s : Scope) (type : SourceType) (name : Text) : List CallType :=
  match r.property? s name type with
  | some p => (r.shape s p.type.get).calls
  | none => []

/-- What a step through the elements of something gives: what has a value before the end. -/
def stepValue? (r : Resolver) (s : Scope) (step : SourceType) : Option SourceType :=
  let all := step.meaning.alternatives.filter fun one =>
    match r.propertyType? s "done" one with
    | some type => !type.isLike (.literal (.boolean true) false)
    | none => true
  (all.mapM fun one => r.propertyType? s "value" one).map
    (SourceType.unionOf s.strict)

/-- What a promise of a type comes to, nested as deep as given. -/
def awaitedBy (r : Resolver) (s : Scope) : (limit : Nat) → SourceType → SourceType
  | 0, type => type
  | limit + 1, type =>
    match type.meaning with
    | .named home name arguments =>
      if home = .always && (name == "Promise" || name == "PromiseLike") then
        awaitedBy r s limit (arguments.headD .any)
      else if home = .always then type
      else
        match r.methodCalls s type "then" with
        | call :: _ =>
          match call.formals with
          | first :: _ =>
            match (r.shape s (first.type.present s.strict)).calls with
            | fulfilled :: _ =>
              match fulfilled.formals with
              | value :: _ => awaitedBy r s limit value.type
              | [] => type
            | [] => type
          | [] => type
        | [] => type
    | .union members _ =>
      if members.any fun one => match one.meaning with | .named .. => true | _ => false then
        .unionOf s.strict (members.map (awaitedBy r s limit))
      else type
    | _ => type

/-- **What a promise of a type comes to.** -/
def awaited (r : Resolver) (s : Scope) (type : SourceType) : SourceType := r.awaitedBy s 16 type

/-- What a type comes to where it is waited for, by the name of the rule as long as a type parameter
is not known. -/
def awaitedNamed (r : Resolver) (s : Scope) (type : SourceType) : SourceType :=
  let single (one : SourceType) : SourceType :=
    let one := r.awaited s one
    let isNeeded : Bool := match one.meaning with
      | .parameter _ _ bound => (bound.map fun b => b.isAny || b.isLike .unknown).getD true
      | .indexed .. => true
      | .deferred .. => true
      | _ => false
    if isNeeded then .standard "Awaited" [one] else one
  .unionOf s.strict (type.alternatives.map single)

/-- A promise of a type. -/
def promised (r : Resolver) (s : Scope) (type : SourceType) : SourceType :=
  .standard "Promise" [r.awaited s type]

/-- What the values of a type that is no union are gone through by. -/
def plainIterated? (r : Resolver) (s : Scope) (type : SourceType) : Option SourceType :=
  match type.meaning with
  | .array _ element => some element
  | .tuple _ items => some (tupleElement s.strict items)
  | type =>
    if type.wrapper? == some "String" then some .string
    else
      match r.methodCalls s type "[Symbol.iterator]" with
      | call :: _ =>
        match r.methodCalls s call.result "next" with
        | next :: _ => r.stepValue? s next.result
        | [] => none
      | [] => none

/-- **What the values of a type are gone through by**, if they can be. -/
def iterated? (r : Resolver) (s : Scope) (type : SourceType) : Option SourceType :=
  match type.meaning with
  | .union members _ => (members.mapM (r.plainIterated? s)).map (SourceType.unionOf s.strict)
  | type => r.plainIterated? s type

/-- What the values of a type are gone through by where each is waited for. -/
def iteratedAsync? (r : Resolver) (s : Scope) (type : SourceType) : Option SourceType :=
  match r.methodCalls s type "[Symbol.asyncIterator]" with
  | call :: _ =>
    match r.methodCalls s call.result "next" with
    | next :: _ => r.stepValue? s (r.awaited s next.result)
    | [] => none
  | [] => (r.iterated? s type).map (r.awaited s)

end Turnstile.Source.Resolver
