import Turnstile.Source.Type

/-! # Unions

* **`SourceType.unionOf`** makes a union: members in a fixed order, none twice, none that another
  one covers.
* **`SourceType.alternatives`** are the single types that a type is a union of.
* **`SourceType.widened`** is what a type is once it is kept. -/

namespace Turnstile.Source.SourceType

/-- An array or tuple as one that cannot be changed. -/
def sealed? (type : SourceType) : Option SourceType :=
  match type.meaning with
  | .array _ element => some (.array true element)
  | .tuple _ items => some (.tuple true items)
  | _ => none

/-- Whether a type takes part in whatever is done with it. -/
def isAny : SourceType → Bool
  | .any => true
  | .unresolved .. => true
  | .other => true
  | .alias _ _ _ type => type.isAny
  | _ => false

/-- Whether nothing is known of a type. -/
def isOther : SourceType → Bool
  | .other => true
  | .alias _ _ _ type => type.isOther
  | _ => false

/-- The single values that come before all others: the empty and zero ones, and then the words for
the types of values. -/
def firstLiterals : List Literal :=
  [.text [], .number (.zero false), .integer 0]
    ++ (["string", "number", "bigint", "boolean", "symbol", "undefined", "object", "function"] :
        List String).map fun word => .text (Text.ofString word)

/-- The place of a member in a union: some types come first, `null` and `undefined` last, the others
between them as they came. -/
def rank : SourceType → Nat
  | .string => 0
  | .number => 1
  | .integer => 2
  | .boolean => 3
  | .literal (.boolean _) _ => 3
  | .symbol => 4
  | .void => 5
  | .object => 6
  | .null => 98
  | .undefined => 99
  | .literal value _ => 7 + firstLiterals.idxOf value
  | _ => 7 + firstLiterals.length

/-- A type put in front of the first one of a higher rank, behind those of its own. -/
def insertRanked (type : SourceType) : List SourceType → List SourceType
  | [] => [type]
  | first :: rest =>
    if type.rank ≤ first.rank then type :: first :: rest else first :: insertRanked type rest

/-- Types in the order of their rank, and as they came within one rank. -/
def ranked (types : List SourceType) : List SourceType := types.foldr insertRanked []

/-- The members of an enumeration, if the values of all of them are known. -/
def enumMembers? (home : Home) (name : Text) (all : List (Text × Option Literal)) :
    Option (List SourceType) :=
  if !all.isEmpty && all.all (·.2.isSome) then
    some (all.map fun (member, value) => .enumMember home name member value false all)
  else none

/-- Whether a union has a name of its own. -/
def isNamedUnion : SourceType → Bool
  | .alias _ _ _ type =>
    match type.meaning with
    | .union .. => true
    | .boolean => true
    | .enumeration .. => true
    | _ => false
  | _ => false

/-- The single types that a member of a union is made of. -/
def spread : SourceType → List SourceType
  | .boolean => [.literal (.boolean false) false, .literal (.boolean true) false]
  | .enumeration home name all => (enumMembers? home name all).getD [.enumeration home name all]
  | type => [type]

/-- **The single types that a type is a union of**, `boolean` being one of two literals. -/
def alternatives (type : SourceType) : List SourceType :=
  match if type.isNamedUnion then type.meaning else type with
  | .union members _ => members.flatMap spread
  | type => type.spread

/-- The named unions that a type is written by. -/
def namedUnions (type : SourceType) : List SourceType :=
  if type.isNamedUnion then [type]
  else
    match type with
    | .union _ shown => shown.filter isNamedUnion
    | _ => []

/-- Whether a type is a type parameter. -/
def isParameter : SourceType → Bool
  | .parameter .. => true
  | _ => false

/-- Whether a type is a single value that is fresh. -/
def isFreshLiteral : SourceType → Bool
  | .literal _ fresh => fresh
  | .enumMember _ _ _ _ fresh _ => fresh
  | _ => false

/-- Types with their keys, without those with the key of an earlier one; of a fresh value and the
same value that is not, the second is kept. -/
def distinctKeyed : List (Text × SourceType) → List (Text × SourceType)
  | [] => []
  | (key, type) :: rest =>
    let others := distinctKeyed rest
    let kept :=
      if type.isFreshLiteral then
        ((others.find? fun later => later.1 == key).map (·.2)).getD type
      else type
    (key, kept) :: others.filter fun later => later.1 != key

/-- Types without those that are the same as an earlier one. -/
def distinct (types : List SourceType) : List SourceType :=
  (distinctKeyed (types.map fun type => (type.key, type))).map (·.2)

/-- The base type of a literal. -/
def literalBase : Literal → SourceType
  | .text _ => .string
  | .number _ => .number
  | .integer _ => .integer
  | .boolean _ => .boolean

/-- Whether a literal has its base type among some types. -/
def isCovered (types : List SourceType) : SourceType → Bool
  | .literal (.boolean _) _ => false
  | .literal value _ => types.any (literalBase value).isLike
  | .enumMember home name _ value _ all =>
    types.any fun type =>
      type.isLike (.enumeration home name all)
        || (value.map fun value => type.isLike (literalBase value)).getD false
  | .enumeration _ _ _ => types.any (·.isLike .number)
  | _ => false

/-- Whether a type is one of the two types of nothing. -/
def isNothing : SourceType → Bool
  | .null => true
  | .undefined => true
  | _ => false

/-- Whether a type is the literal `true`, or the literal `false`. -/
def isTruth (value : Bool) : SourceType → Bool
  | .literal (.boolean b) _ => b == value
  | _ => false

/-- Types with the two truth values, if both are there, as one. -/
def joinTruths (types : List SourceType) : List SourceType :=
  if types.any (isTruth true) && types.any (isTruth false) then
    insertRanked .boolean (types.filter fun type => !(isTruth true type || isTruth false type))
  else types

/-- Types with all members of an enumeration, if they are there, as one, in the place of the first.
-/
def joinEnumerations : List SourceType → List SourceType
  | [] => []
  | .enumMember home name member value fresh all :: rest =>
    let own (type : SourceType) : Bool :=
      match type with
      | .enumMember its .. => its = home
      | _ => false
    if (rest.filter own).length + 1 = all.length then
      .enumeration home name all :: rest.filter fun type => !own type
    else .enumMember home name member value fresh all :: joinEnumerations rest
  | type :: rest => type :: joinEnumerations rest

/-- The types by which a union is written: the named unions that it was made of, and what is left,
if the named ones do not overlap. -/
def shownBy (types alternatives : List SourceType) : Option (List SourceType) :=
  let names := distinctNames (types.flatMap namedUnions)
  if names.isEmpty then none
  else
    let keys := names.map fun name => name.alternatives.map key
    let isNamed (type : SourceType) : Bool := keys.any fun own => own.contains type.key
    let left := alternatives.filter fun type => !isNamed type
    let named := (keys.map (·.length)).foldl (· + ·) 0
    if named + left.length = alternatives.length then
      let inOrder := types.flatMap fun type =>
        match namedUnions type with
        | [] => type.alternatives.filter fun one => left.any one.isLike
        | names => names ++ type.alternatives.filter fun one => left.any one.isLike
      some (joinEnumerations (joinTruths (ranked (distinctNames inOrder))))
    else none
where
  /-- Types without those that are written and mean the same as an earlier one. -/
  distinctNames : List SourceType → List SourceType
    | [] => []
    | type :: rest => type :: (distinctNames rest).filter fun later =>
        !(later.toText == type.toText && later.isLike type)

/-- **The union of some types.** Without `strict`, `null` and `undefined` are values of every type.
-/
def unionOf (strict : Bool) (types : List SourceType) : SourceType :=
  let all := types.flatMap alternatives
  if all.any isAny then if all.any fun type => type.isAny && !type.isOther then .any else .other
  else if all.any (·.isLike .unknown) then .unknown
  else
    let all := distinct (all.filter fun type => !type.isLike .never)
    let all := if strict || all.all isNothing then all else all.filter fun type => !type.isNothing
    let all := if strict then all else if all.all isNothing then all.take 1 else all
    let all := ranked (all.filter fun type => !isCovered all type)
    match joinEnumerations (joinTruths all) with
    | [] => .never
    | [single] => single
    | members =>
      match shownBy types all with
      | some [single] => single
      | some shown => .union members shown
      | none => .union members members

/-- A type or `undefined`. -/
def orUndefined (strict : Bool) (type : SourceType) : SourceType :=
  if strict then unionOf strict [type, .undefined] else type

/-- A type without `null` and `undefined`. -/
def present (strict : Bool) (type : SourceType) : SourceType :=
  let all := type.alternatives
  if all.any isNothing then unionOf strict (all.filter fun one => !one.isNothing) else type

/-- A type without `undefined`. -/
def defined (strict : Bool) (type : SourceType) : SourceType :=
  let all := type.alternatives
  if all.any (·.isLike .undefined) then unionOf strict (all.filter fun one => !one.isLike .undefined)
  else type

/-! ## Widening -/

/-- A fresh single value as its base type. -/
def unfresh : SourceType → SourceType
  | .literal value true => literalBase value
  | .enumMember home name _ _ true all => .enumeration home name all
  | type => type

/-- A type with the base types of its fresh single values. -/
def plain (strict : Bool) : SourceType → SourceType
  | .union members shown =>
    if members.any isFreshLiteral then unionOf strict (members.map unfresh) else .union members shown
  | type => type.unfresh

/-- Nothing as anything. -/
def anyForNothing (type : SourceType) : SourceType := if type.isNothing then .any else type

/-- What a type is once it is kept: a fresh literal becomes its base type. Without `strict`, nothing
becomes anything. -/
def widened (strict : Bool) (type : SourceType) : SourceType :=
  if strict then type.plain strict
  else
    match type with
    | .array isReadonly element => .array isReadonly element.anyForNothing
    | .record members =>
      .record (members.map fun member =>
        match member with
        | .property name isOptional isReadonly type =>
          .property name isOptional isReadonly type.anyForNothing
        | member => member)
    | type => (type.plain strict).anyForNothing

/-- A type whose literals stay what they are. -/
def settled : SourceType → SourceType
  | .literal value _ => .literal value false
  | .enumMember home name member value _ all => .enumMember home name member value false all
  | .union members shown =>
    .union (members.map fun member => match member with
      | .literal value _ => .literal value false
      | .enumMember home name member value _ all => .enumMember home name member value false all
      | member => member) shown
  | type => type

/-- The base type of a single value. -/
def base : SourceType → SourceType
  | .literal value _ => literalBase value
  | .enumMember home name _ _ _ all => .enumeration home name all
  | type => type

/-- Whether a type is a single value. -/
def isUnit : SourceType → Bool
  | .literal .. => true
  | .enumMember .. => true
  | .null => true
  | .undefined => true
  | _ => false

/-- A type by the base types of its single values. -/
def general (strict : Bool) (type : SourceType) : SourceType :=
  match type.meaning with
  | .union members _ => unionOf strict (members.map base)
  | type => type.base

end Turnstile.Source.SourceType
