import Turnstile.Source.Resolve

/-! # Ways to be called

* **`Resolver.callsOf`** lists the ways in which the values of a type can be called. A union can be
  called only if all its members can: in a way that they share, or in one put together from theirs.
* **`Calls.share`** and **`Calls.combine`** are these two. -/

namespace Turnstile.Source

namespace Calls

/-- Whether a call takes the same arguments as another one. -/
def sameArguments (a b : CallType) : Bool :=
  a.formals.length = b.formals.length && a.least = b.least && a.takesMore = b.takesMore
    && (List.range a.formals.length).all fun place => (a.taken place).isLike (b.taken place)

/-- Whether a call can be used wherever another one is: it needs no more arguments, and takes what
that one takes. -/
def servesFor (r : Resolver) (s : Scope) (a b : CallType) : Bool :=
  a.least ≤ b.least && a.typeFormals.length = b.typeFormals.length
    && (List.range b.formals.length).all fun place => r.isFit s (b.taken place) (a.taken place)

/-- The call among some that takes the same arguments as a given one, or at least serves for it. -/
def counterpart? (r : Resolver) (s : Scope) (calls : List CallType) (call : CallType) :
    Option CallType :=
  (calls.find? fun one => sameArguments one call).or (calls.find? fun one => servesFor r s one call)

/-- Calls without those that take the same arguments as an earlier one. -/
def firsts : List CallType → List CallType
  | [] => []
  | call :: rest => call :: (firsts rest).filter fun later => !sameArguments call later

/-- A call with its counterparts in several lists, one of which is its own, as one with the union of
their results. -/
def shared? (r : Resolver) (s : Scope) (lists : List (List CallType)) (own : Nat) (call : CallType) :
    Option CallType :=
  let counterparts : Option (List CallType) :=
    ((List.range lists.length).zip lists).mapM fun (place, calls) =>
      if place = own then some call else counterpart? r s calls call
  counterparts.map fun all => { call with result := .unionOf s.strict (all.map (·.result)) }

/-- The calls with a counterpart in each of several lists, with the union of the results. -/
def share (r : Resolver) (s : Scope) (lists : List (List CallType)) : List CallType :=
  firsts (((List.range lists.length).zip lists).flatMap fun (own, calls) =>
    calls.filterMap (shared? r s lists own))

/-- A parameter that stands for those at one place of two calls: under their name if they share one
or only one has it, else under a name made of the place. -/
def combinedFormal (strict : Bool) (place : Nat) (a b : CallType) : FormalType :=
  let x := a.formals[place]?
  let y := b.formals[place]?
  let name : Text :=
    match x, y with
    | some x, some y => if x.name = y.name then x.name else "arg" ++ Text.ofNat place
    | some x, none => x.name
    | none, some y => y.name
    | none, none => "arg" ++ Text.ofNat place
  let type := Resolver.intersectionOf strict ((a.taken? place).toList ++ (b.taken? place).toList)
  ⟨name, a.least ≤ place && b.least ≤ place, false, type, type, false⟩

/-- Two calls put together: it takes what both take. -/
def combine (strict : Bool) (a b : CallType) : CallType :=
  let longest := if b.formals.length ≤ a.formals.length then a else b
  let formals := (List.range longest.formals.length).map fun place => combinedFormal strict place a b
  let extra : List FormalType :=
    if (a.takesMore || b.takesMore) && !longest.takesMore then
      [⟨"args", true, false, .unknown, .unknown, false⟩]
    else []
  ⟨[], none, formals ++ extra, .unionOf strict [a.result, b.result], none, true⟩

/-- The ways to call a union, from those of its members. -/
def ofUnion (r : Resolver) (s : Scope) (lists : List (List CallType)) : List CallType :=
  if lists.any (·.isEmpty) then []
  else
    match share r s lists with
    | [] =>
      if lists.all (·.length = 1) && lists.all (·.all (·.typeFormals.isEmpty)) then
        match lists.flatten with
        | [] => []
        | first :: rest => [rest.foldl (combine s.strict) first]
      else []
    | shared => shared

end Calls

namespace Resolver

/-- **The ways in which the values of a type can be called.** -/
def callsOf (r : Resolver) (s : Scope) (type : SourceType) : List CallType :=
  match type.meaning with
  | .union members _ => Calls.ofUnion r s (members.map fun one => (r.shape s one).calls)
  | type => (r.shape s type).calls

/-- The ways in which the values of a type can be constructed. -/
def constructsOf (r : Resolver) (s : Scope) (type : SourceType) : List CallType :=
  match type.meaning with
  | .union members _ => Calls.ofUnion r s (members.map fun one => (r.shape s one).constructs)
  | type => (r.shape s type).constructs

end Resolver

end Turnstile.Source
