import Turnstile.Source.Type.Union

/-! # The order in which types come up

The members of a union are written in the order in which they came up first, wherever that was.

* **`SourceType.comingUp`** lists the types that come up with a type, by their keys: parts before
  the whole, and what is inside of functions and records last.
* **`SourceType.arranged`** is a type whose unions are written in a given order. -/

namespace Turnstile.Source.SourceType

mutual

/-- The types that come up where a type is named. -/
def mentioned (type : SourceType) : List Text :=
  match type with
  | .literal value fresh => [(SourceType.literal value fresh).key]
  | .array isReadonly element => mentioned element ++ [(SourceType.array isReadonly element).key]
  | .tuple isReadonly items => mentionedItems items ++ [(SourceType.tuple isReadonly items).key]
  | .callable calls => [(SourceType.callable calls).key]
  | .constructable isAbstract call => [(SourceType.constructable isAbstract call).key]
  | .record members => [(SourceType.record members).key]
  | .union members shown => mentionedAll shown ++ [(SourceType.union members shown).key]
  | .intersection members => mentionedAll members ++ [(SourceType.intersection members).key]
  | .named home name arguments => mentionedAll arguments ++ [(SourceType.named home name arguments).key]
  | .alias _ _ arguments meaning => mentionedAll arguments ++ mentioned meaning
  | .keysOf type => mentioned type ++ [(SourceType.keysOf type).key]
  | .indexed container key =>
    mentioned container ++ mentioned key ++ [(SourceType.indexed container key).key]
  | type => [type.key]

/-- The types that come up where types are named. -/
def mentionedAll : List SourceType → List Text
  | [] => []
  | type :: rest => mentioned type ++ mentionedAll rest

/-- The types that come up where the elements of a tuple are named. -/
def mentionedItems : List TupleType → List Text
  | [] => []
  | ⟨_, _, _, type⟩ :: rest => mentioned type ++ mentionedItems rest

end

mutual

/-- The types that come up only where a type is written out: those inside of functions and records. -/
def inner : SourceType → List Text
  | .array _ element => inner element
  | .tuple _ items => innerItems items
  | .callable calls => innerCalls calls
  | .constructable _ call => innerCall call
  | .record members => innerMembers members
  | .union _ shown => innerAll shown
  | .intersection members => innerAll members
  | .named _ _ arguments => innerAll arguments
  | .alias _ _ arguments _ => innerAll arguments
  | .keysOf type => inner type
  | .indexed container key => inner container ++ inner key
  | _ => []

/-- The types that come up only where types are written out. -/
def innerAll : List SourceType → List Text
  | [] => []
  | type :: rest => inner type ++ innerAll rest

/-- The types that come up only where the elements of a tuple are written out. -/
def innerItems : List TupleType → List Text
  | [] => []
  | ⟨_, _, _, type⟩ :: rest => inner type ++ innerItems rest

/-- The types that come up where a way to be called is written out. -/
def innerCall : CallType → List Text
  | ⟨_, _, formals, result, _, _⟩ => innerFormals formals ++ mentioned result ++ inner result

/-- The types that come up where ways to be called are written out. -/
def innerCalls : List CallType → List Text
  | [] => []
  | call :: rest => innerCall call ++ innerCalls rest

/-- The types that come up where parameters are written out. -/
def innerFormals : List FormalType → List Text
  | [] => []
  | ⟨_, _, _, type, declared, _⟩ :: rest =>
    mentioned type ++ inner type ++ mentioned declared ++ inner declared ++ innerFormals rest

/-- The types that come up where the members of a record are written out. -/
def innerMembers : List MemberType → List Text
  | [] => []
  | .property _ _ _ type :: rest => mentioned type ++ inner type ++ innerMembers rest
  | .method _ _ call :: rest => innerCall call ++ innerMembers rest
  | .call call :: rest => innerCall call ++ innerMembers rest
  | .construct call :: rest => innerCall call ++ innerMembers rest
  | .index _ _ key type :: rest =>
    mentioned key ++ mentioned type ++ inner key ++ inner type ++ innerMembers rest

end

/-- **The types that come up with a type**, by their keys. -/
def comingUp (type : SourceType) : List Text := type.mentioned ++ type.inner

/-- A type put in front of the first one that came up later. -/
def insertArranged (place : SourceType → Nat) (type : SourceType) : List SourceType → List SourceType
  | [] => [type]
  | first :: rest =>
    if type.rank < first.rank || (type.rank = first.rank && place type ≤ place first) then
      type :: first :: rest
    else first :: insertArranged place type rest

/-- The members of a union in the order in which they came up. -/
def arrange (order : List Text) (types : List SourceType) : List SourceType :=
  let place (type : SourceType) : Nat := order.idxOf type.key
  types.foldr (insertArranged place) []

mutual

/-- **A type whose unions are written in the order** in which their members came up. -/
def arranged (order : List Text) : SourceType → SourceType
  | .array isReadonly element => .array isReadonly (arranged order element)
  | .tuple isReadonly items => .tuple isReadonly (arrangedItems order items)
  | .callable calls => .callable (arrangedCalls order calls)
  | .constructable isAbstract call => .constructable isAbstract (arrangedCall order call)
  | .record members => .record (arrangedMembers order members)
  | .union members shown => .union members (arrange order (arrangedAll order shown))
  | .intersection members => .intersection (arrangedAll order members)
  | .named home name arguments => .named home name (arrangedAll order arguments)
  | .alias home name arguments meaning => .alias home name (arrangedAll order arguments) meaning
  | .keysOf type => .keysOf (arranged order type)
  | .indexed container key => .indexed (arranged order container) (arranged order key)
  | type => type

/-- Types whose unions are written in an order. -/
def arrangedAll (order : List Text) : List SourceType → List SourceType
  | [] => []
  | type :: rest => arranged order type :: arrangedAll order rest

/-- The elements of a tuple with their unions in an order. -/
def arrangedItems (order : List Text) : List TupleType → List TupleType
  | [] => []
  | ⟨label, isOptional, isRest, type⟩ :: rest =>
    ⟨label, isOptional, isRest, arranged order type⟩ :: arrangedItems order rest

/-- A way to be called with its unions in an order. -/
def arrangedCall (order : List Text) : CallType → CallType
  | ⟨typeFormals, receiver, formals, result, predicate, isSynthetic⟩ =>
    ⟨typeFormals, receiver, arrangedFormals order formals, arranged order result,
      predicate, isSynthetic⟩

/-- Ways to be called with their unions in an order. -/
def arrangedCalls (order : List Text) : List CallType → List CallType
  | [] => []
  | call :: rest => arrangedCall order call :: arrangedCalls order rest

/-- Parameters with their unions in an order. -/
def arrangedFormals (order : List Text) : List FormalType → List FormalType
  | [] => []
  | ⟨name, isOptional, isRest, type, declared, hasDefault⟩ :: rest =>
    ⟨name, isOptional, isRest, arranged order type, arranged order declared, hasDefault⟩
      :: arrangedFormals order rest

/-- The members of a record with their unions in an order. -/
def arrangedMembers (order : List Text) : List MemberType → List MemberType
  | [] => []
  | .property name isOptional isReadonly type :: rest =>
    .property name isOptional isReadonly (arranged order type) :: arrangedMembers order rest
  | .method name isOptional call :: rest =>
    .method name isOptional (arrangedCall order call) :: arrangedMembers order rest
  | .call call :: rest => .call (arrangedCall order call) :: arrangedMembers order rest
  | .construct call :: rest => .construct (arrangedCall order call) :: arrangedMembers order rest
  | .index name isReadonly key type :: rest =>
    .index name isReadonly (arranged order key) (arranged order type) :: arrangedMembers order rest

end

end Turnstile.Source.SourceType
