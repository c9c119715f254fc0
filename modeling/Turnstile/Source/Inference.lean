import Turnstile.Source.Relation

/-! # Types found for type parameters

* **`Resolver.candidates`** are the types that a given type has where a wanted type has type
  parameters.
* **`Resolver.inferred`** are the types that the type parameters of a call stand for: of several
  candidates the one that the others fit, and what a type parameter must be within if none does. -/

namespace Turnstile.Source

/-- A type that a type parameter may stand for. -/
structure Candidate where
  home : Home
  type : SourceType
  /-- Whether the type parameter stands by itself where the type was found. -/
  isAlone : Bool
  /-- Whether what is taken was compared, and not what is given. -/
  isTaken : Bool
  /-- Whether it is only what is asked for from the result. -/
  isAsked : Bool

namespace Resolver

/-- Whether a type has a type parameter among its alternatives. -/
def hasAlone (home : Home) (type : SourceType) : Bool :=
  type.alternatives.any fun one =>
    match one with
    | .parameter own _ _ => own = home
    | _ => false

/-- The type parameter that a type is, among those looked for. -/
def sought? (homes : List Home) (type : SourceType) : Option Home :=
  match type with
  | .parameter home _ _ => if homes.contains home then some home else none
  | _ => none

/-- What candidates are looked for: for which type parameters, and where. -/
structure Search where
  homes : List Home
  whole : SourceType
  isTaken : Bool
  isAsked : Bool
  visited : Assumed

namespace Search

/-- A search on the other side: where something is taken. -/
def turned (search : Search) : Search := { search with isTaken := !search.isTaken }

end Search

mutual

/-- The candidates that a call gives where another one is asked for. -/
def callCandidates (r : Resolver) (s : Scope) (search : Search) (given wanted : CallType) :
    (limit : Nat) → List Candidate
  | 0 => []
  | limit + 1 =>
    let given := r.erased s given
    let places := List.range (max given.places.length wanted.places.length)
    let wantedRest : Option SourceType :=
      (wanted.formals.getLast?.filter fun f => f.isRest && (sought? search.homes f.type).isSome).map
        (·.type)
    let fromPlaces :=
      match wantedRest with
      | some rest =>
        let skipped := wanted.formals.length - 1
        let items : List TupleType := (given.formals.drop skipped).map fun f =>
          ⟨some f.name, f.isOptional && !f.isRest, f.isRest, f.type⟩
        candidates r s search.turned (tupleOf items) rest limit
      | none =>
        places.flatMap fun place =>
          match given.taken? place, wanted.taken? place with
          | some own, some asked => candidates r s search.turned own asked limit
          | _, _ => []
    let fromResult := candidates r s search given.result wanted.result limit
    let fromPredicate :=
      match given.predicate, wanted.predicate with
      | some ⟨_, _, some own⟩, some ⟨_, _, some asked⟩ => candidates r s search own asked limit
      | _, _ => []
    fromPlaces ++ fromResult ++ fromPredicate

/-- The candidates that the members of a type give where those of another one are asked for. -/
def shapeCandidates (r : Resolver) (s : Scope) (search : Search) (given wanted : SourceType) :
    (limit : Nat) → List Candidate
  | 0 => []
  | limit + 1 =>
    let own := r.shape s given
    let asked := r.shape s wanted
    let fromProperties := asked.properties.flatMap fun p =>
      match own.property? p.name with
      | some found =>
        let type := found.type.get
        candidates r s search (if found.isOptional then type.defined s.strict else type)
          (if p.isOptional then p.type.get.defined s.strict else p.type.get) limit
      | none => []
    let fromCalls (own asked : List CallType) : List Candidate :=
      asked.flatMap fun call =>
        match own.getLast? with
        | some one => callCandidates r s search one call limit
        | none => []
    let fromIndexes := asked.indexes.flatMap fun index =>
      match indexAt? own (index.key.isLike .number) with
      | some type => candidates r s search type index.type limit
      | none =>
        if given.isObject && !isDeclaredShape s given && !own.properties.isEmpty then
          candidates r s search
            (.unionOf s.strict (own.properties.map fun p =>
              if p.isOptional then p.type.get.defined s.strict else p.type.get))
            index.type limit
        else []
    fromProperties ++ fromCalls own.calls asked.calls ++ fromCalls own.constructs asked.constructs
      ++ fromIndexes

/-- The candidates for a union, of which type parameters may be members. -/
def unionCandidates (r : Resolver) (s : Scope) (search : Search) (given : SourceType)
    (wanted : List SourceType) : (limit : Nat) → List Candidate
  | 0 => []
  | limit + 1 =>
    let all := given.alternatives
    let left := all.filter fun one => !wanted.any one.isLike
    let left := if left.isEmpty then [] else left
    let others := wanted.filter fun one => (sought? search.homes one).isNone && !all.any one.isLike
    let alone := wanted.filterMap (sought? search.homes)
    let found := left.map fun one =>
      (one, others.flatMap fun asked => candidates r s search one asked limit)
    let fromOthers := found.flatMap (·.2)
    let unmatched := (found.filter fun pair => pair.2.isEmpty).map (·.1)
    let fromAlone :=
      match alone with
      | [] => []
      | [home] =>
        if unmatched.isEmpty then []
        else
          [⟨home, .unionOf s.strict unmatched, hasAlone home search.whole, search.isTaken,
            search.isAsked⟩]
      | homes => homes.map fun home =>
        ⟨home, .unionOf s.strict unmatched, hasAlone home search.whole, search.isTaken, true⟩
    fromOthers ++ fromAlone

/-- **The types that a given type has where a wanted type has type parameters.** -/
def candidates (r : Resolver) (s : Scope) (search : Search) (given wanted : SourceType) :
    (limit : Nat) → List Candidate
  | 0 => []
  | limit + 1 =>
    match sought? search.homes wanted with
    | some home =>
      if given.isOther then []
      else [⟨home, given, hasAlone home search.whole, search.isTaken, search.isAsked⟩]
    | none =>
      match given, wanted with
      | .alias home name own _, .alias otherHome otherName asked meaning =>
        if home = otherHome && name = otherName then
          (own.zip asked).flatMap fun (x, y) => candidates r s search x y limit
        else
          candidates r s search given.meaning meaning limit
      | given, .alias home name asked meaning =>
        if home.path = Home.always.path
            && [("Partial" : Text), "Readonly", "Required"].contains name then
          asked.flatMap fun one => candidates r s search given one limit
        else candidates r s search given meaning limit
      | given, wanted =>
        let given := given.meaning
        match given, wanted with
        | given, .union members _ => unionCandidates r s search given members limit
        | .union members _, wanted =>
          members.flatMap fun one => candidates r s search one wanted limit
        | given, .intersection members =>
          members.flatMap fun one => candidates r s search given one limit
        | .array _ own, .array _ asked => candidates r s search own asked limit
        | .tuple _ items, .array _ asked =>
          candidates r s search (tupleElement s.strict items) asked limit
        | .tuple _ items, .tuple _ asked =>
          let fixed := asked.takeWhile fun item => !item.isRest
          let fromFixed := (items.zip fixed).flatMap fun (x, y) =>
            candidates r s search x.type y.type limit
          let fromRest := match (asked.drop fixed.length) with
            | [item] => candidates r s search (tupleOf (items.drop fixed.length)) item.type limit
            | _ => []
          fromFixed ++ fromRest
        | .array isReadonly own, .tuple _ [item] =>
          if item.isRest then candidates r s search (.array isReadonly own) item.type limit else []
        | .named home name own, .named otherHome otherName asked =>
          if home = otherHome && name = otherName then
            (own.zip asked).flatMap fun (x, y) => candidates r s search x y limit
          else if otherHome = .always && otherName == "PromiseLike" && name == "Promise" then
            (own.zip asked).flatMap fun (x, y) => candidates r s search x y limit
          else standardCandidates r s search given otherHome otherName asked limit
        | given, .named home name asked => standardCandidates r s search given home name asked limit
        | given, wanted =>
          match wanted with
          | .callable _ => visitedCandidates r s search given wanted limit
          | .constructable .. => visitedCandidates r s search given wanted limit
          | .record _ => visitedCandidates r s search given wanted limit
          | _ => []

/-- The candidates for a named type of another name. -/
def standardCandidates (r : Resolver) (s : Scope) (search : Search) (given : SourceType) (home : Home)
    (name : Text) (asked : List SourceType) : (limit : Nat) → List Candidate
  | 0 => []
  | limit + 1 =>
    if asked.isEmpty then []
    else if home = .always && name == "Iterable" then
      match r.iterated? s given with
      | some element => candidates r s search element (asked.headD .any) limit
      | none => []
    else visitedCandidates r s search given (.named home name asked) limit

/-- The candidates of the members of types that were not compared before. -/
def visitedCandidates (r : Resolver) (s : Scope) (search : Search) (given wanted : SourceType) :
    (limit : Nat) → List Candidate
  | 0 => []
  | limit + 1 =>
    let pair := (given.key, wanted.key)
    if search.visited.contains pair then []
    else
      shapeCandidates r s { search with visited := pair :: search.visited } given wanted limit

end

/-- The candidates of a type for type parameters in a wanted type. -/
def findCandidates (r : Resolver) (s : Scope) (homes : List Home) (isAsked : Bool)
    (given wanted : SourceType) : List Candidate :=
  r.candidates s ⟨homes, wanted, false, isAsked, []⟩ given wanted comparedDepth

/-! ## The choice among candidates -/

/-- Whether types are single values of one base type. -/
def haveOneBase (types : List SourceType) : Bool :=
  match types with
  | [] => false
  | first :: _ =>
    types.all fun type => !type.base.isLike type && type.base.isLike first.base

/-- A type among some that the others fit, or the first one. -/
def commonType (r : Resolver) (s : Scope) (types : List SourceType) : SourceType :=
  let present := types.filter fun type => !type.isNothing
  let nothing := if s.strict then types.filter SourceType.isNothing else []
  let chosen : SourceType :=
    match SourceType.distinct present with
    | [] => .unionOf s.strict types
    | [single] => single
    | first :: rest =>
      if haveOneBase (first :: rest) then .unionOf s.strict (first :: rest)
      else if (first :: rest).all fun type => match type with | .record _ => true | _ => false then
        let isCovered (type : SourceType) : Bool :=
          (first :: rest).any fun wider => !wider.isLike type && r.isFit s type wider
        match (first :: rest).filter fun type => !isCovered type with
        | [] => first
        | left => .unionOf s.strict left
      else rest.foldl (fun best type => if r.isFit s best type then type else best) first
  if nothing.isEmpty || present.isEmpty then chosen else .unionOf s.strict (chosen :: nothing)

/-- Whether a type parameter must be within primitive types. -/
def isBoundByPrimitive (bound : Option SourceType) : Bool :=
  match bound with
  | none => false
  | some bound => bound.alternatives.any fun one =>
    one.isSimple || (match one with | .keysOf _ => true | _ => false)

/-- The type among candidates that a type parameter stands for. -/
def chosen? (r : Resolver) (s : Scope) (result : SourceType) (formal : TypeFormalType)
    (all : List Candidate) : Option SourceType :=
  let own := all.filter (·.home = formal.home)
  let best := match own.filter fun c => !c.isAsked with
    | [] => own
    | found => found
  let given := best.filter fun c => !c.isTaken
  let keepsSingle := isBoundByPrimitive formal.bound
  let widens := !keepsSingle && given.all (·.isAlone) && !hasAlone formal.home result
  let isSettled := formal.isConstant || keepsSingle || (given.any (·.isAsked))
  match given with
  | [] =>
    match best with
    | [] => none
    | first :: rest =>
      some (rest.foldl (fun type c => if r.isFit s c.type type then c.type else type) first.type)
  | _ =>
    let types := given.map fun c =>
      if isSettled then c.type.settled else if widens then c.type.widened s.strict else c.type
    some (r.commonType s types)

/-- **The types that the type parameters of a call stand for**, from candidates. One that nothing is
found for stands for its default, or for what it must be within. -/
def inferred (r : Resolver) (s : Scope) (call : CallType) (all : List Candidate) : List SourceType :=
  (call.typeFormals.foldl (fun (map, types) formal =>
    let bound := formal.bound.map (r.substitute s map)
    let type : SourceType :=
      match r.chosen? s call.result formal all with
      | some type => type
      | none =>
        match formal.default with
        | some default => r.substitute s map default
        | none => .unknown
    let type : SourceType :=
      match bound with
      | some bound =>
        let own := r.substitute s [(formal.home, type)] bound
        if r.isFit s type own then type else own
      | none => type
    (map ++ [(formal.home, type)], types ++ [type]))
    (([] : List (Home × SourceType)), ([] : List SourceType))).2

end Resolver

end Turnstile.Source
