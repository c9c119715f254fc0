import Turnstile.Source.Call
import Turnstile.Source.Substitute

/-! # Which values fit

* **`Resolver.fits`** says whether the values of one type may stand where another type is asked for.
  Types fit by what they have, not by their names; where something is not known, they fit.
* **`mismatch`** is what is said about a type that does not fit. **`displayed`** chooses how both
  types are written there: a single value by its base type unless single values are asked for, and a
  type asked for without `null` and `undefined` if one is left. -/

namespace Turnstile.Source

namespace SourceType

/-- Whether the values of a type are objects. -/
def isObject (type : SourceType) : Bool :=
  match type.meaning with
  | .object => true
  | .array .. => true
  | .tuple .. => true
  | .callable _ => true
  | .constructable .. => true
  | .record _ => true
  | .named .. => true
  | .valueOf .. => true
  | .moduleValue _ => true
  | _ => false

/-- Whether a single value is one that an enumeration has; of values that are not known, it may be
any. -/
def isEnumValue (all : List (Text × Option Literal)) (value : Literal) : Bool :=
  match value with
  | .number _ => all.any fun (_, own) => own.isNone || own == some value
  | _ => false

/-- Whether one primitive type, or the type of one value, fits another one. -/
def primitiveFits (strict : Bool) (given wanted : SourceType) : Bool :=
  match given, wanted with
  | .undefined, .undefined => true
  | .undefined, .void => true
  | .null, .null => true
  | .undefined, _ => !strict
  | .null, _ => !strict
  | .literal value _, .enumeration _ _ all => isEnumValue all value
  | .literal value _, .enumMember _ _ _ own _ _ =>
    match value with
    | .number _ => own.isNone || own == some value
    | _ => false
  | .literal value fresh, wanted =>
    (SourceType.literal value fresh).isLike wanted || (literalBase value).isLike wanted
  | .enumMember home name _ value _ all, wanted =>
    (SourceType.enumeration home name all).isLike wanted
      || (match value with
          | some value =>
            (literalBase value).isLike wanted || (SourceType.literal value false).isLike wanted
          | none => wanted.isLike .number)
  | .enumeration home name all, wanted =>
    match (SourceType.enumeration home name all).wrapper? with
    | some base => wanted.wrapper? == some base && !wanted.isUnit
    | none => false
  | .number, .enumeration home name all =>
    (SourceType.enumeration home name all).wrapper? == some "Number"
  | .number, .enumMember home whole name value fresh all =>
    (SourceType.enumMember home whole name value fresh all).wrapper? == some "Number"
  | given, wanted => given.isLike wanted

/-- Whether a type is primitive, or a single primitive value. -/
def isSimple (type : SourceType) : Bool :=
  type.wrapper?.isSome || type.isNothing || type.isLike .void

end SourceType

/-- What is taken as holding while deciding whether a type fits: pairs of types, by their keys. -/
abbrev Assumed := List (Text × Text)

namespace Resolver

/-- Whether a name is that of a standard type that any object, or any function, is. -/
def isStandard (type : SourceType) (name : Text) : Bool :=
  match type with
  | .named home own _ => home = .always && own = name
  | _ => false

/-- Whether an interface or a class declares a type: it has members at further keys only if it says
so. -/
def isDeclaredShape (s : Scope) (type : SourceType) : Bool :=
  match type with
  | .named home name _ =>
    match s.declaredAt home name with
    | some (_, all) => all.any fun d =>
      match d with
      | .alias .. => false
      | _ => true
    | none => true
  | .array .. => true
  | .tuple .. => true
  | _ => false

/-- A call without its type parameters; anything stands for them. -/
def erased (r : Resolver) (s : Scope) (call : CallType) : CallType :=
  r.instantiate s call (call.typeFormals.map fun _ => .any)

mutual

/-- Whether the elements of one tuple fit those of another one. -/
def fitsTuple (r : Resolver) (s : Scope) (assumed : Assumed) (given wanted : List TupleType) :
    (limit : Nat) → Bool
  | 0 => true
  | limit + 1 =>
    let fixed := wanted.takeWhile fun item => !item.isRest
    let element (item : TupleType) : SourceType := tupleElement s.strict [item]
    let isRequired (item : TupleType) : Bool := !item.isOptional && !item.isRest
    (given.length ≤ wanted.length || wanted.any (·.isRest))
      && (wanted.filter isRequired).length ≤ (given.filter isRequired).length
      && (!(given.any (·.isRest)) || wanted.any (·.isRest))
      && ((List.range given.length).zip given).all fun (place, item) =>
        match (fixed[place]?).or wanted.getLast? with
        | some place => fits r s assumed (element item) (element place) limit
        | none => false

/-- Whether one way to be called can stand for another one. Of a method, a parameter may also take
less. -/
def fitsCall (r : Resolver) (s : Scope) (assumed : Assumed) (isMethod : Bool)
    (given wanted : CallType) : (limit : Nat) → Bool
  | 0 => true
  | limit + 1 =>
    let given := r.erased s given
    let wanted := r.erased s wanted
    let places := max given.places.length wanted.places.length
    (given.least ≤ wanted.most || wanted.takesMore)
      && ((List.range places).all fun place =>
        match given.taken? place, wanted.taken? place with
        | some own, some asked =>
          fits r s assumed asked own limit
            || ((isMethod || !s.strict) && fits r s assumed own asked limit)
        | _, _ => true)
      && (wanted.result.isLike .void || fits r s assumed given.result wanted.result limit)
      && (match wanted.predicate, given.predicate with
          | some ⟨_, _, some wanted⟩, some ⟨_, _, some given⟩ => fits r s assumed given wanted limit
          | some ⟨_, _, some _⟩, none => given.result.isAny
          | _, _ => true)

/-- Whether a property of one type can stand for that of another one. -/
def fitsProperty (r : Resolver) (s : Scope) (assumed : Assumed) (given : Option Property)
    (wanted : Property) : (limit : Nat) → Bool
  | 0 => true
  | limit + 1 =>
    match given with
    | none => wanted.isOptional
    | some given =>
      decide (given.owner = wanted.owner) && (wanted.isOptional || !given.isOptional)
        && (if wanted.isMethod || given.isMethod then
              let own := (r.shape s given.type.get).calls
              let others := (r.shape s wanted.type.get).calls
              if own.isEmpty || others.isEmpty then
                fits r s assumed given.type.get wanted.type.get limit
              else
                others.all fun other => own.any fun one => fitsCall r s assumed true one other limit
            else fits r s assumed given.type.get wanted.type.get limit)

/-- Whether a type fits another one by what both have. -/
def fitsShape (r : Resolver) (s : Scope) (assumed : Assumed) (given wanted : SourceType) :
    (limit : Nat) → Bool
  | 0 => true
  | limit + 1 =>
    let own := r.shape s given
    let other := r.shape s wanted
    if !other.isKnown then !given.isSimple
    else
      (other.properties.all fun p =>
        let found :=
          match own.property? p.name with
          | some found => some found
          | none => if own.isKnown then r.commonProperty? s given own p.name else none
        (found.isNone && !own.isKnown) || fitsProperty r s assumed found p limit)
        && (other.calls.all fun call =>
          !own.isKnown || own.calls.any fun one => fitsCall r s assumed false one call limit)
        && (other.constructs.all fun call =>
          !own.isKnown || own.constructs.any fun one => fitsCall r s assumed false one call limit)
        && (other.indexes.all fun index =>
          let isNumeric := index.key.isLike .number
          !own.isKnown
            || match indexAt? own isNumeric with
              | some type => fits r s assumed type index.type limit
              | none =>
                !isDeclaredShape s given && given.isObject
                  && (own.properties.all fun p =>
                    (isNumeric && !isNumeral p.name)
                      || fits r s assumed
                          (if p.isOptional then p.type.get.defined s.strict else p.type.get)
                          index.type limit))

/-- Whether a type that is no union fits another one that is no union. -/
def fitsSingle (r : Resolver) (s : Scope) (assumed : Assumed) (given wanted : SourceType) :
    (limit : Nat) → Bool
  | 0 => true
  | limit + 1 =>
    match given, wanted with
    | given, .intersection members => members.all fun one => fits r s assumed given one limit
    | .intersection members, wanted =>
      (members.any fun one => fits r s assumed one wanted limit)
        || (wanted.isObject && fitsShape r s assumed (.intersection members) wanted limit)
    | .parameter _ _ bound, wanted =>
      match bound with
      | some bound => fits r s assumed bound wanted limit
      | none => !s.strict && wanted.isObject && (r.shape s wanted).properties.isEmpty
    | .keysOf _, wanted =>
      [SourceType.string, .number, .symbol].all fun one => fits r s assumed one wanted limit
    | .indexed .., _ => true
    | .deferred .., _ => true
    | _, .parameter .. => false
    | _, .keysOf _ => false
    | _, .indexed .. => false
    | _, .deferred .. => false
    | .array isReadonly a, .array others b => (others || !isReadonly) && fits r s assumed a b limit
    | .tuple isReadonly items, .array others b =>
      (others || !isReadonly) && (items.all fun item =>
        fits r s assumed (tupleElement s.strict [item]) b limit)
    | .tuple isReadonly items, .tuple others wanted =>
      (others || !isReadonly) && fitsTuple r s assumed items wanted limit
    | .array .., .tuple .. => false
    | given, .object => given.isObject
    | given, wanted =>
      if given.isSimple && (wanted.isSimple || given.isNothing || given.isLike .void) then
        SourceType.primitiveFits s.strict given wanted
      else if wanted.isSimple then false
      else if isStandard wanted "Object" then true
      else if isStandard wanted "Function" && given.isObject then
        let own := r.shape s given
        !own.isKnown || !own.calls.isEmpty || !own.constructs.isEmpty
          || isStandard given "CallableFunction" || isStandard given "NewableFunction"
      else
        match given, wanted with
        | .named a name own, .named b second arguments =>
          if a = b && name = second && a = .always && own.length = arguments.length then
            (own.zip arguments).all fun (x, y) => fits r s assumed x y limit
          else fitsAssuming r s assumed given wanted limit
        | given, .named home name arguments =>
          if home = .always && name == "Iterable" then
            match r.iterated? s given with
            | some element => fits r s assumed element (arguments.headD .any) limit
            | none => !(r.shape s given).isKnown
          else fitsAssuming r s assumed given wanted limit
        | given, wanted => fitsAssuming r s assumed given wanted limit

/-- Whether a type fits another one by what both have, which is taken as holding inside of it. -/
def fitsAssuming (r : Resolver) (s : Scope) (assumed : Assumed) (given wanted : SourceType) :
    (limit : Nat) → Bool
  | 0 => true
  | limit + 1 =>
    let pair := (given.key, wanted.key)
    assumed.contains pair || fitsShape r s (pair :: assumed) given wanted limit

/-- Whether the values of one type may stand where another type is asked for. -/
def fits (r : Resolver) (s : Scope) (assumed : Assumed) (given wanted : SourceType) :
    (limit : Nat) → Bool
  | 0 => true
  | limit + 1 =>
    let given := given.meaning
    let wanted := wanted.meaning
    if wanted.isAny || given.isOther then true
    else if given.isAny then !wanted.isLike .never
    else
      match given, wanted with
      | .never, _ => true
      | _, .unknown => true
      | _, .never => false
      | .unknown, _ => false
      | given, wanted =>
        given.isLike wanted
          || match given, wanted with
            | .union members _, wanted => members.all fun one => fits r s assumed one wanted limit
            | given, .union members shown =>
              (SourceType.union members shown).alternatives.any (fun one =>
                  fits r s assumed given one limit)
                || (match given with
                    | .boolean => fitsAll r s assumed given members limit
                    | .enumeration .. => fitsAll r s assumed given members limit
                    | .parameter _ _ (some bound) =>
                      fits r s assumed bound (.union members shown) limit
                    | .intersection parts =>
                      parts.any fun one => fits r s assumed one (.union members shown) limit
                    | .record own => fitsByParts r s assumed own members limit
                    | _ => false)
            | given, wanted => fitsSingle r s assumed given wanted limit

/-- Whether each value of a type of several values fits one of some types. -/
def fitsAll (r : Resolver) (s : Scope) (assumed : Assumed) (given : SourceType)
    (wanted : List SourceType) : (limit : Nat) → Bool
  | 0 => true
  | limit + 1 =>
    1 < given.alternatives.length
      && given.alternatives.all fun one => wanted.any fun place => fits r s assumed one place limit

/-- Whether a record fits one of some types for each of the single values of one of its members. -/
def fitsByParts (r : Resolver) (s : Scope) (assumed : Assumed) (own : List MemberType)
    (wanted : List SourceType) : (limit : Nat) → Bool
  | 0 => true
  | limit + 1 =>
    own.any fun member =>
      match member with
      | .property name isOptional isReadonly type =>
        let values := type.alternatives
        1 < values.length && values.length ≤ 8 && values.all SourceType.isUnit
          && values.all fun value =>
            let one : SourceType := .record (own.map fun m =>
              match m with
              | .property second _ _ _ =>
                if second = name then .property name isOptional isReadonly value else m
              | _ => m)
            wanted.any fun place => fits r s assumed one place limit
      | _ => false

end

/-- How deep types are compared. -/
def comparedDepth : Nat := 64

/-- **Whether the values of one type may stand where another type is asked for.** -/
def isFit (r : Resolver) (s : Scope) (given wanted : SourceType) : Bool :=
  r.fits s [] given wanted comparedDepth

/-! ## Wordings -/

/-- Whether single values are asked for. -/
def wantsSingle (wanted : SourceType) : Bool :=
  let isSingle (one : SourceType) : Bool :=
    one.isUnit || (match one with | .enumeration .. => true | _ => false)
  match wanted.meaning with
  | .boolean => false
  | .parameter _ _ (some bound) => bound.alternatives.any isSingle && !bound.isLike .boolean
  | type => type.isUnit || type.alternatives.any isSingle

/-- Whether a type has single values alone. -/
def isSingleValued (type : SourceType) : Bool :=
  match type.meaning with
  | .enumeration .. => true
  | type => type.alternatives.all SourceType.isUnit

/-- The one type that is left of a union without `null` and `undefined`. -/
def soleAlternative? (type : SourceType) : Option SourceType :=
  let all := type.alternatives
  match all.filter fun one => !one.isNothing with
  | [single] => if all.length = 1 then none else some single
  | _ => none

/-- Whether a type is certainly not `null` or `undefined`, and no union. -/
def isPlain (type : SourceType) : Bool :=
  match type.meaning with
  | .null => false
  | .undefined => false
  | .void => false
  | .union .. => false
  | .unknown => false
  | .parameter .. => false
  | _ => true

/-- **How two types are written** where one does not fit the other. -/
def displayed (strict : Bool) (given wanted : SourceType) : Text × Text :=
  let wanted :=
    match wanted with
    | .alias .. => wanted
    | _ => if isPlain given then (soleAlternative? wanted).getD wanted else wanted
  let given :=
    if !wanted.isLike .never && isSingleValued given && !wantsSingle wanted then given.general strict
    else given
  (given.toText, wanted.toText)

/-- The line about two types. -/
def mismatchLine (strict : Bool) (given wanted : SourceType) : Text :=
  let (given, wanted) := displayed strict given wanted
  "Type '" ++ given ++ "' is not assignable to type '" ++ wanted ++ "'."

/-- The lines about the reason why a type does not fit, below the first one, each one level deeper.
-/
def reasons (r : Resolver) (s : Scope) (level : Nat) : (limit : Nat) → (given wanted : SourceType) →
    List Text
  | 0, _, _ => []
  | limit + 1, given, wanted =>
    let unfit (pairs : List (SourceType × SourceType)) : List Text :=
      match pairs.find? fun (given, wanted) => !r.isFit s given wanted with
      | some (given, wanted) =>
        (List.replicate (2 * level) (Text.unit ' ') ++ mismatchLine s.strict given wanted)
          :: reasons r s (level + 1) limit given wanted
      | none => []
    match given.meaning, wanted.meaning with
    | .union members _, wanted =>
      if members.all SourceType.isUnit then []
      else
        let last := members.filter SourceType.isNothing
        let others := members.filter fun one => !one.isNothing
        unfit ((last.reverse ++ others).map fun one => (one, wanted))
    | .array _ given, .array _ wanted => unfit [(given, wanted)]
    | .named a own as, .named b name bs => if a = b && own = name then unfit (as.zip bs) else []
    | .callable [a], .callable [b] => unfit [(a.result, b.result)]
    | _, _ => []

/-- **What is said about a type that does not fit.** -/
def mismatch (r : Resolver) (s : Scope) (given wanted : SourceType) : Text :=
  Text.join "\n" (mismatchLine s.strict given wanted :: reasons r s 1 8 given wanted)

/-- What is said about an argument that does not fit. -/
def argumentMismatch (r : Resolver) (s : Scope) (given wanted : SourceType) : Text :=
  let (givenText, wantedText) := displayed s.strict given wanted
  Text.join "\n" (("Argument of type '" ++ givenText ++ "' is not assignable to parameter of type '"
    ++ wantedText ++ "'.") :: reasons r s 1 8 given wanted)

end Resolver

end Turnstile.Source
