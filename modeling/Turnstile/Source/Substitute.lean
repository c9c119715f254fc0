import Turnstile.Source.Members

/-! # Types put in for type parameters

* **`Resolver.substitute`** puts types in for type parameters, everywhere in a type.
* **`Resolver.keysOf`** are the keys of a type, **`Resolver.indexed`** what it has at keys. Both stay
  as they are written while they are about a type parameter. -/

namespace Turnstile.Source

namespace SourceType

/-- Whether the values of a type are not known before a type parameter is. -/
def isOpen (type : SourceType) : Bool :=
  match type.meaning with
  | .parameter .. => true
  | .indexed .. => true
  | .keysOf _ => true
  | .deferred .. => true
  | _ => false

/-- The single value that a name is as a key. -/
def ofKeyName (name : Text) : SourceType :=
  if Resolver.isNumeral name then
    .literal (.number (.ofNat (name.foldl (fun n u => 10 * n + (u.toNat - 48)) 0))) false
  else .literal (.text name) false

end SourceType

namespace Resolver

/-- **The keys of a type.** Several are written by the type that they are the keys of. -/
def keysOf (r : Resolver) (s : Scope) (type : SourceType) : SourceType :=
  if type.isAny then .unionOf s.strict [.string, .number, .symbol]
  else if type.isOpen then .keysOf type
  else
    let shape := r.shape s type
    if !shape.isKnown then .keysOf type
    else
      let names := (shape.properties.filter fun p =>
        p.owner.isNone && !p.name.startsWith "[").map fun p => SourceType.ofKeyName p.name
      let keys := shape.indexes.flatMap fun index =>
        if index.key.isLike .string then [SourceType.string, .number] else [index.key]
      match SourceType.unionOf s.strict (names ++ keys) with
      | .union members _ =>
        if keys.isEmpty then .union members [.keysOf type] else .union members members
      | single => single

/-- **What a type has at keys of a type.** -/
def indexed (r : Resolver) (s : Scope) (type key : SourceType) : SourceType :=
  if type.isAny then .any
  else
    match r.elementAt? s type key with
    | some found => if key.isOpen then .indexed type key else found
    | none => if type.isOpen || key.isOpen then .indexed type key else .other

mutual

/-- **A type with types put in for type parameters**, which are given by their homes. -/
def substitute (r : Resolver) (s : Scope) (map : List (Home × SourceType)) : SourceType → SourceType
  | .parameter home name bound => (map.lookup home).getD (.parameter home name bound)
  | .array isReadonly element => .array isReadonly (substitute r s map element)
  | .tuple isReadonly items =>
    match tupleOf (substituteItems r s map items) with
    | .tuple _ items => .tuple isReadonly items
    | .array _ element => .array isReadonly element
    | type => type
  | .callable calls => .callable (substituteCalls r s map calls)
  | .constructable isAbstract call => .constructable isAbstract (substituteCall r s map call)
  | .record members => .record (substituteMembers r s map members)
  | .union _ shown => .unionOf s.strict (substituteAll r s map shown)
  | .intersection members => intersectionOf s.strict (substituteAll r s map members)
  | .named home name arguments =>
    match substituteAll r s map arguments with
    | [single] =>
      if home = .always && name == "Awaited" then r.awaitedNamed s single else .named home name [single]
    | all => .named home name all
  | .alias home name arguments meaning =>
    .alias home name (substituteAll r s map arguments) (substitute r s map meaning)
  | .unresolved name arguments => .unresolved name (substituteAll r s map arguments)
  | .keysOf type => r.keysOf s (substitute r s map type)
  | .indexed type key => r.indexed s (substitute r s map type) (substitute r s map key)
  | .deferred _ path tree bound =>
    r.type ((s.inside path []).within (.types (substituteBound r s map bound))) tree
  | type => type

/-- Types with types put in. -/
def substituteAll (r : Resolver) (s : Scope) (map : List (Home × SourceType)) :
    List SourceType → List SourceType
  | [] => []
  | type :: rest => substitute r s map type :: substituteAll r s map rest

/-- A type, if there is one, with types put in. -/
def substituteOption (r : Resolver) (s : Scope) (map : List (Home × SourceType)) :
    Option SourceType → Option SourceType
  | none => none
  | some type => some (substitute r s map type)

/-- The types that names stand for with types put in. -/
def substituteBound (r : Resolver) (s : Scope) (map : List (Home × SourceType)) :
    List BoundType → List BoundType
  | [] => []
  | ⟨name, type⟩ :: rest => ⟨name, substitute r s map type⟩ :: substituteBound r s map rest

/-- The elements of a tuple with types put in. -/
def substituteItems (r : Resolver) (s : Scope) (map : List (Home × SourceType)) :
    List TupleType → List TupleType
  | [] => []
  | ⟨label, isOptional, isRest, type⟩ :: rest =>
    ⟨label, isOptional, isRest, substitute r s map type⟩ :: substituteItems r s map rest

/-- Parameters with types put in. -/
def substituteFormals (r : Resolver) (s : Scope) (map : List (Home × SourceType)) :
    List FormalType → List FormalType
  | [] => []
  | ⟨name, isOptional, isRest, type, declared, hasDefault⟩ :: rest =>
    ⟨name, isOptional, isRest, substitute r s map type, substitute r s map declared, hasDefault⟩
      :: substituteFormals r s map rest

/-- Type parameters with types put in. -/
def substituteTypeFormals (r : Resolver) (s : Scope) (map : List (Home × SourceType)) :
    List TypeFormalType → List TypeFormalType
  | [] => []
  | ⟨home, name, isConstant, bound, default⟩ :: rest =>
    ⟨home, name, isConstant, substituteOption r s map bound, substituteOption r s map default⟩
      :: substituteTypeFormals r s map rest

/-- What a result says about a parameter, with types put in. -/
def substitutePredicate (r : Resolver) (s : Scope) (map : List (Home × SourceType)) :
    Option PredicateType → Option PredicateType
  | none => none
  | some ⟨asserted, subject, type⟩ => some ⟨asserted, subject, substituteOption r s map type⟩

/-- A way to be called with types put in. -/
def substituteCall (r : Resolver) (s : Scope) (map : List (Home × SourceType)) : CallType → CallType
  | ⟨typeFormals, receiver, formals, result, predicate, isSynthetic⟩ =>
    ⟨substituteTypeFormals r s map typeFormals, substituteOption r s map receiver,
      substituteFormals r s map formals, substitute r s map result,
      substitutePredicate r s map predicate, isSynthetic⟩

/-- Ways to be called with types put in. -/
def substituteCalls (r : Resolver) (s : Scope) (map : List (Home × SourceType)) :
    List CallType → List CallType
  | [] => []
  | call :: rest => substituteCall r s map call :: substituteCalls r s map rest

/-- The members of a record with types put in. -/
def substituteMembers (r : Resolver) (s : Scope) (map : List (Home × SourceType)) :
    List MemberType → List MemberType
  | [] => []
  | .property name isOptional isReadonly type :: rest =>
    .property name isOptional isReadonly (substitute r s map type) :: substituteMembers r s map rest
  | .method name isOptional call :: rest =>
    .method name isOptional (substituteCall r s map call) :: substituteMembers r s map rest
  | .call call :: rest => .call (substituteCall r s map call) :: substituteMembers r s map rest
  | .construct call :: rest =>
    .construct (substituteCall r s map call) :: substituteMembers r s map rest
  | .index name isReadonly key type :: rest =>
    .index name isReadonly (substitute r s map key) (substitute r s map type)
      :: substituteMembers r s map rest

end

/-- A way to be called without its type parameters, which stand for types. -/
def instantiate (r : Resolver) (s : Scope) (call : CallType) (types : List SourceType) : CallType :=
  if call.typeFormals.isEmpty then call
  else
    let map := (call.typeFormals.map (·.home)).zip types
    { r.substituteCall s map { call with typeFormals := [] } with typeFormals := [] }

end Resolver

end Turnstile.Source
