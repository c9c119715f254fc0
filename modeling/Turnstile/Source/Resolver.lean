import Turnstile.Source.Scope

/-! # Resolvers

A **resolver** knows what written types and code come to. What is made of several parts is worked out
from a resolver for the parts.

* **`Resolver.callOf`** is the meaning of a written way to be called, **`Resolver.memberOf`** that of
  a written member.
* **`Resolver.bindArguments`** puts type arguments to type parameters. -/

namespace Turnstile.Source

/-- **What written types and code come to.** -/
structure Resolver where
  /-- How deep the parts may be nested. -/
  limit : Nat
  type : Scope → TypeTree → SourceType
  /-- The type of an expression, where a type may be asked for. -/
  expression : Scope → Option SourceType → Expression → SourceType
  /-- The way in which a function can be called, where one may be asked for. -/
  function : Scope → Option CallType → FunctionTree → CallType

namespace Resolver

/-- The scope inside of something with type parameters, and these. -/
def bindFormals (r : Resolver) (s : Scope) (formals : List TypeFormal) :
    Scope × List TypeFormalType :=
  if formals.isEmpty then (s, [])
  else
    let bare :=
      s.within (.types (formals.map fun f => ⟨f.name, .parameter (s.home f.site) f.name none⟩))
    let all : List TypeFormalType := formals.map fun f =>
      ⟨s.home f.site, f.name, f.isConstant, f.bound.map (r.type bare), f.default.map (r.type bare)⟩
    (s.within (.types (all.map fun f => ⟨f.name, .parameter f.home f.name f.bound⟩)), all)

/-- A parameter of a written call. -/
def formalOf (r : Resolver) (s : Scope) (formal : Formal) : FormalType :=
  let declared :=
    match formal.type with
    | some type => r.type s type
    | none => if formal.isRest then .array false .any else .any
  { name := formal.name.getD formal.shape
    isOptional := formal.isOptional || formal.isRest
    isRest := formal.isRest
    type := if formal.isOptional then .orUndefined s.strict declared else declared
    declared
    hasDefault := false }

/-- Whether a parameter stands for the receiver. -/
def isReceiver (formal : Formal) : Bool := formal.name = some "this"

/-- Parameters without the one that stands for the receiver. -/
def withoutReceiver (formals : List Formal) : List Formal :=
  match formals with
  | first :: rest => if isReceiver first then rest else first :: rest
  | [] => []

/-- The type of the receiver, if one stands in front of the parameters. -/
def receiverOf? (r : Resolver) (s : Scope) (formals : List Formal) : Option SourceType :=
  (formals.head?.filter isReceiver).map fun formal => (formal.type.map (r.type s)).getD .any

/-- A written result, and what it says about a parameter. -/
def resultOf (r : Resolver) (s : Scope) : TypeTree → SourceType × Option PredicateType
  | .predicate asserted subject type =>
    (if asserted then .void else .boolean, some ⟨asserted, subject, type.map (r.type s)⟩)
  | type => (r.type s type, none)

/-- A written way to be called. -/
def callOf (r : Resolver) (s : Scope) (shape : CallShape) : CallType :=
  let (inner, typeFormals) := r.bindFormals s shape.typeFormals
  let (result, predicate) :=
    match shape.result with
    | some result => r.resultOf inner result
    | none => (.any, none)
  { typeFormals
    receiver := r.receiverOf? inner shape.formals
    formals := (withoutReceiver shape.formals).map (r.formalOf inner)
    result, predicate, isSynthetic := false }

/-- A member of a written record. -/
def memberOf (r : Resolver) (s : Scope) : TypeMember → MemberType
  | .property _ name isOptional isReadonly type =>
    let type := (type.map (r.type s)).getD .any
    .property name isOptional isReadonly (if isOptional then .orUndefined s.strict type else type)
  | .method _ name isOptional shape => .method name isOptional (r.callOf s shape)
  | .call shape => .call (r.callOf s shape)
  | .construct shape => .construct (r.callOf s shape)
  | .index name isReadonly key type => .index name isReadonly (r.type s key) (r.type s type)

/-- The ways to be called, if a record has nothing else. -/
def onlyCalls (members : List MemberType) : Option (List CallType) :=
  members.mapM fun member =>
    match member with
    | .call call => some call
    | _ => none

/-- A record, or what can be called if that is all it is. -/
def recordOf (members : List MemberType) : SourceType :=
  match members with
  | [] => .record []
  | [.construct call] => .constructable false call
  | members =>
    match onlyCalls members with
    | some calls => .callable calls
    | none => .record members

/-- A tuple, in which the elements of another one may be spread; an array if one is spread alone.
-/
def tupleOf (items : List TupleType) : SourceType :=
  let spread : List TupleType := items.flatMap fun item =>
    match item.isRest, item.type.meaning with
    | true, .tuple _ inner => inner
    | _, _ => [item]
  match spread with
  | [⟨_, _, true, type⟩] =>
    match type.meaning with
    | .array _ element => .array false element
    | _ => .tuple false spread
  | _ => .tuple false spread

/-- Type arguments put to type parameters, those that stand for missing ones behind the ones given.
-/
def bindArguments (r : Resolver) (s : Scope) :
    List TypeFormal → List SourceType → List BoundType
  | [], _ => []
  | formal :: formals, argument :: arguments =>
    ⟨formal.name, argument⟩
      :: bindArguments r (s.within (.types [⟨formal.name, argument⟩])) formals arguments
  | formal :: formals, [] =>
    let argument := (formal.default.map (r.type s)).getD .any
    ⟨formal.name, argument⟩
      :: bindArguments r (s.within (.types [⟨formal.name, argument⟩])) formals []

/-- The type parameters of a declaration. -/
def typeFormalsOf : Declaration → List TypeFormal
  | .class tree => tree.typeFormals
  | .alias _ formals _ => formals
  | .interface _ formals _ _ => formals
  | _ => []

/-- A scope in which the type parameters of a declaration stand for type arguments. -/
def binding (r : Resolver) (s : Scope) (declaration : Declaration) (arguments : List SourceType) :
    Scope :=
  match typeFormalsOf declaration with
  | [] => s
  | formals => s.within (.types (r.bindArguments s formals arguments))

end Resolver

end Turnstile.Source
