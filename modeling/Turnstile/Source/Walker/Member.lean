import Turnstile.Source.Walker.Condition

/-! # Members of values

* **`Walker.member`** and **`Walker.element`** walk over what a value has under a name or at a key.
* **`Walker.wholeChain`** walks over what goes on only where something in front of it is there. -/

namespace Turnstile.Source.Walker

/-- A member that only its class can use is read. -/
def readOwned (r : Resolver) (s : Scope) (type : SourceType) (name : Text) : Walk Unit :=
  match r.property? s name type with
  | some p =>
    match p.owner with
    | some home => Walk.read ⟨home, some name⟩
    | none => pure ()
  | none => pure ()

/-- What is known of something, as far as its declared type is one of these. -/
def known (r : Resolver) (s : Scope) (fact : Option SourceType) (declared : SourceType) : SourceType :=
  match fact with
  | none => declared
  | some fact =>
    if declared.isAny || fact.isAny || r.isFit s fact declared then fact
    else
      match fact.alternatives.filter fun one => r.isFit s one declared with
      | [] => declared
      | kept => .unionOf s.strict kept

/-- What has a member walked over: its type where it is there, and whether the whole may end before
it. -/
def owner (w : Walker) (place : Place) (container : Expression) (isOptional : Bool) :
    Walk (SourceType × Bool) := do
  let (type, mayEnd) ← w.chain place none container
  if isOptional then return (presentOf place type, mayEnd || mayBeMissing type)
  return (← presentType place container type, mayEnd)

/-- **A member walked over**; `isRead` says whether its value is used. -/
def member (w : Walker) (place : Place) (isRead : Bool) (container : Expression) (site : Site)
    (name : Text) (isOptional : Bool) : Walk (SourceType × Bool) := do
  match container with
  | .base _ =>
    let s ← Walk.scope place
    let type := (place.scope.boundType? (baseName false)).getD .other
    return (w.resolver.memberType s type name, false)
  | container =>
    let (type, mayEnd) ← w.owner place container isOptional
    let s ← Walk.scope place
    if isRead then readOwned w.resolver s type name
    let declared := w.resolver.memberType s type name
    if !isRead then return (declared, mayEnd)
    let fact ← fact? place (.member container site name isOptional)
    return (known w.resolver s fact declared, mayEnd)

/-- **An element walked over**; `isRead` says whether its value is used. -/
def element (w : Walker) (place : Place) (isRead : Bool) (container index : Expression)
    (isOptional : Bool) : Walk (SourceType × Bool) := do
  let (type, mayEnd) ← w.owner place container isOptional
  let key ← w.expression place none index
  let s ← Walk.scope place
  match key.keyName? with
  | some name => if isRead then readOwned w.resolver s type name
  | none => pure ()
  let declared : SourceType :=
    if type.isAny then type else (w.resolver.elementAt? s type key).getD .other
  if !isRead then return (declared, mayEnd)
  let fact ← fact? place (.element container index isOptional)
  return (known w.resolver s fact declared, mayEnd)

/-- **What goes on only where something in front of it is there**, walked over by parts. -/
def wholeChain (w : Walker) (place : Place) (wanted : Option SourceType) (e : Expression) :
    Walk (SourceType × Bool) := do
  match e with
  | .member container site name isOptional => w.member place true container site name isOptional
  | .element container index isOptional => w.element place true container index isOptional
  | .call callee typeTrees arguments isOptional =>
    let called ← w.call place wanted callee typeTrees arguments isOptional
    return (called.result, called.mayEnd)
  | .nonNull inner =>
    let (type, mayEnd) ← w.chain place none inner
    return (presentOf place type, mayEnd)
  | e => return (← w.expression place wanted e, false)

end Turnstile.Source.Walker
