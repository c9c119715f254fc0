import Turnstile.Source.Walker.Expression

/-! # Patterns walked over

* **`Walker.bindPattern`** walks over what a value is bound to, and finds the types of its parts. What
  stands for a missing part is held against what is written for the whole.
* **`Walker.bound`** makes the bound names known. -/

namespace Turnstile.Source.Walker

/-- A value that is taken apart. -/
structure Apart where
  type : SourceType
  /-- What facts about it are about. -/
  reference : Option Reference
  /-- Whether its type is written down. -/
  isWritten : Bool

/-- The key of a part walked over, and its name if that is known. -/
def partName? (w : Walker) (place : Place) : MemberName → Walk (Option Text)
  | .known _ name => return some name
  | .computed _ key => SourceType.keyName? <$> w.expression place none key

/-- A part of a value, as it is known here. -/
def partOf (w : Walker) (place : Place) (whole : Apart) (key : PartKey) : Walk Apart := do
  let r := w.resolver
  let s ← Walk.scope place
  let declared := r.partOf s whole.type key none r.limit
  let name? : Option Text := match key with
    | .member name => name.text?
    | .element place => some (Text.ofNat place)
    | _ => none
  match name? with
  | none => return { whole with type := declared, reference := none }
  | some name =>
    if !whole.type.isAny then readOwned r s whole.type name
    let reference := whole.reference.map fun reference => reference.member name
    match ← Walk.flow, reference with
    | some facts, some own =>
      return { whole with type := known r s (facts.lookup own) declared, reference }
    | _, _ => return { whole with type := declared, reference }

/-- A part of a value, or what stands for it where it is missing. -/
def withDefault (w : Walker) (place : Place) (part : Apart) (site : Site) :
    Option Expression → Walk Apart
  | none => return part
  | some value => do
    let strict := place.scope.strict
    let wanted := if part.type.isAny then none else some part.type
    let given ← w.expression place wanted value
    if part.isWritten then
      w.fit place site (some value) given part.type
      let isKept := given.alternatives.any fun one => one.isLike .undefined
      return {
        part with
        type := if isKept then part.type else part.type.defined strict
        reference := none }
    else
      let present := part.type.defined strict
      let type : SourceType :=
        if part.type.isOther then given.widened strict
        else .unionOf strict [present, keptAs strict wanted given]
      return { part with type := type.widened strict, reference := none }

/-- **What a value is bound to walked over**, as deep as given: the names with their types. -/
def bindPattern (w : Walker) (place : Place) : (limit : Nat) → Pattern → Apart →
    Walk (List (BoundName × SourceType))
  | 0, _, _ => return []
  | limit + 1, pattern, whole => do
    match pattern with
    | .name site own => return [(⟨own, site⟩, whole.type)]
    | .record _ parts =>
      let (_, found) ← parts.foldlM (fun (taken, found) part => do
        match part with
        | .property key _ pattern default =>
          let name? ← w.partName? place key
          let key := match name? with
            | some name => .known key.site name
            | none => key
          let part ← w.partOf place whole (.member key)
          let part ← w.withDefault place part pattern.site default
          return (taken ++ name?.toList, found ++ (← bindPattern w place limit pattern part))
        | .rest pattern =>
          let part ← w.partOf place whole (.otherMembers taken)
          return (taken, found ++ (← bindPattern w place limit pattern part))
        | _ => return (taken, found)) (([] : List Text), ([] : List (BoundName × SourceType)))
      return found
    | .array _ parts =>
      let s ← Walk.scope place
      let isPlaced := match whole.type.meaning with
        | .tuple .. => true
        | .array .. => true
        | _ => whole.type.isAny
      let element : Apart := { whole with
        type := (w.resolver.iterated? s whole.type).getD .other
        reference := none }
      let (_, found) ← parts.foldlM (fun (number, found) part => do
        match part with
        | .element pattern default =>
          let part ← if isPlaced then w.partOf place whole (.element number) else pure element
          let part ← w.withDefault place part pattern.site default
          return (number + 1, found ++ (← bindPattern w place limit pattern part))
        | .rest pattern =>
          let part ←
            if isPlaced then w.partOf place whole (.otherElements number)
            else pure { element with type := .array false element.type }
          return (number + 1, found ++ (← bindPattern w place limit pattern part))
        | _ => return (number + 1, found)) (0, ([] : List (BoundName × SourceType)))
      return found

/-- The types of bound names are known from here. -/
def bound (place : Place) (names : List (BoundName × SourceType)) : Walk Unit :=
  names.forM fun (n, type) => Walk.learn (place.scope.home n.site) type

/-- A frame with the names that a pattern binds. -/
def frameOf (isConstant isParameter : Bool) (names : List BoundName) : Frame :=
  .block (names.map fun n => (n.name, .bound n.site isConstant isParameter))

/-! ## Names that are seen by their source alone -/

/-- Whether a name says that it need not be used. -/
def isSpare (name : Text) : Bool := name.startsWith "_"

mutual

/-- The names that a pattern declares, of which a single one is of some kind. -/
def ownNames (s : Scope) (isParameter : Bool) (kind : DeclarationKind) : Pattern → List OwnName
  | .name site own => [⟨own, site, ⟨s.home site, none⟩, kind⟩]
  | .record site parts =>
    let hasRest := match parts.getLast? with
      | some (.rest _) => true
      | _ => false
    ownParts s isParameter hasRest (.part site parts.length isParameter) parts
  | .array site parts =>
    ownElements s isParameter
      (if isParameter then .part site parts.length isParameter else .function) parts

/-- The names that the members of a record are bound to. Those in front of a rest keep something out
of it. -/
def ownParts (s : Scope) (isParameter hasRest : Bool) (kind : DeclarationKind) :
    List PatternPart → List OwnName
  | [] => []
  | .property _ isShort pattern _ :: rest =>
    let own := ownNames s isParameter kind pattern
    let kept := match pattern with
      | .name _ name => if hasRest || (!isShort && isSpare name) then [] else own
      | _ => own
    kept ++ ownParts s isParameter hasRest kind rest
  | .rest pattern :: rest =>
    ownNames s isParameter kind pattern ++ ownParts s isParameter hasRest kind rest
  | _ :: rest => ownParts s isParameter hasRest kind rest

/-- The names that the elements of an array are bound to. -/
def ownElements (s : Scope) (isParameter : Bool) (kind : DeclarationKind) :
    List PatternPart → List OwnName
  | [] => []
  | .element pattern _ :: rest =>
    let own := ownNames s isParameter kind pattern
    let kept := match pattern with
      | .name _ name => if isSpare name then [] else own
      | _ => own
    kept ++ ownElements s isParameter kind rest
  | .rest pattern :: rest => ownNames s isParameter kind pattern ++ ownElements s isParameter kind rest
  | _ :: rest => ownElements s isParameter kind rest

end

/-- What a pattern asks for from a value by itself. -/
def ownType (w : Walker) (place : Place) (pattern : Pattern) : Walk SourceType := do
  let s ← Walk.scope place
  return pattern.ownType fun e => (w.resolver.expression s none e).widened s.strict

end Turnstile.Source.Walker
