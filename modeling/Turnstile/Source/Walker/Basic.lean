import Turnstile.Source.Assigned
import Turnstile.Source.Walk

/-! # Walkers

A **walker** goes through expressions, functions and statements, finds their types and collects what
is wrong with them. It is put together from functions that walk one level of code and leave the
parts to the walker that they are given.

* **`Walker.checkType`** goes through a written type: names that nothing declares are faults.
* **`Walker.nameType`** is the type of a name at a place.
* **`Walker.reference?`** is what a fact about an expression is about. -/

namespace Turnstile.Source

/-- What is known behind a condition: if it holds, and if it does not. -/
structure Outcome where
  type : SourceType
  whenTrue : Flow
  whenFalse : Flow

/-- A **walker**: what it does with the parts of code. -/
structure Walker where
  resolver : Resolver
  expression : Place → Option SourceType → Expression → Walk SourceType
  /-- The type of an expression where all that it goes on from is there, and whether it may end early
  because something is not. -/
  chain : Place → Option SourceType → Expression → Walk (SourceType × Bool)
  condition : Place → Option SourceType → Expression → Walk Outcome
  function : Place → Option CallType → FunctionTree → Walk CallType
  classBody : Place → ClassTree → Walk Unit
  statement : Place → Statement → Walk Unit

namespace Walker

/-! ## Written types -/

/-- A name among types is read. -/
def readType (place : Place) (name : Text) : Walk Unit :=
  match place.scope.firstHome? .type name with
  | some home => Walk.read ⟨home, none⟩
  | none => pure ()

/-- A name among values is read. -/
def readValue (place : Place) (name : Text) : Walk Unit :=
  match place.scope.firstHome? .value name with
  | some home => Walk.read ⟨home, none⟩
  | none => pure ()

/-- A module named in code, with a report if it is not there. -/
def checkModule (place : Place) (name : Text) (site : Site) : Walk Unit :=
  let scope := place.scope
  if (scope.program.moduleAt? scope.path name).isSome || scope.hasModule name then pure ()
  else
    Walk.report site ("Cannot find module '" ++ name ++ "' or its corresponding type declarations.")

/-- The name of a type, with a report if nothing goes by it. -/
def checkTypeName (place : Place) (site : Site) (path : List Text) : Walk Unit := do
  match path with
  | [] => pure ()
  | [name] =>
    readType place name
    if (keywordType? name).isNone && (place.scope.find .type name).isNone && !(name == "this") then
      if (place.scope.find .value name).isSome then
        Walk.report site ("'" ++ name ++ "' refers to a value, but is being used as a type here. "
          ++ "Did you mean 'typeof " ++ name ++ "'?")
      else Walk.report site (unknownName name)
  | name :: _ =>
    match place.scope.firstHome? .space name with
    | some home => Walk.read ⟨home, none⟩
    | none => readType place name
    if (place.scope.find .space name).isNone then
      Walk.report site ("Cannot find namespace '" ++ name ++ "'.")

/-- A parameter that says nothing about its type. -/
def reportUntyped (place : Place) (site : Site) (name : Text) (isRest : Bool) : Walk Unit :=
  if place.scope.program.options.noImplicitAny then
    if isRest then
      Walk.report site ("Rest parameter '" ++ name ++ "' implicitly has an 'any[]' type.")
    else Walk.report site ("Parameter '" ++ name ++ "' implicitly has an 'any' type.")
  else pure ()

/-- A place where type parameters stand for themselves. -/
def binding (w : Walker) (place : Place) (formals : List TypeFormal) : Place :=
  { place with scope := (w.resolver.bindFormals place.scope formals).1 }

mutual

/-- Type parameters, with reports of the unknown names in what is written about them. -/
def checkTypeFormals (w : Walker) (place : Place) (formals : List TypeFormal) :
    (limit : Nat) → Walk Unit
  | 0 => pure ()
  | limit + 1 =>
    formals.forM fun f => do
      f.bound.toList.forM fun tree => checkTypeIn w place tree limit
      f.default.toList.forM fun tree => checkTypeIn w place tree limit

/-- A written call, with reports of the unknown names in it, and of parameters without a type. -/
def checkShape (w : Walker) (place : Place) (shape : CallShape) : (limit : Nat) → Walk Unit
  | 0 => pure ()
  | limit + 1 => do
    let inner := w.binding place shape.typeFormals
    checkTypeFormals w inner shape.typeFormals limit
    shape.formals.forM fun f => do
      match f.type with
      | some type => checkTypeIn w inner type limit
      | none =>
        match f.name with
        | some name => reportUntyped place f.site name f.isRest
        | none => pure ()
    let names := shape.formals.filterMap fun f => f.name.map fun name =>
      (name, Declaration.bound f.site true true)
    shape.result.toList.forM fun tree => checkTypeIn w (inner.within (.block names)) tree limit

/-- A member of a written record, with reports of the unknown names in it. -/
def checkMember (w : Walker) (place : Place) (member : TypeMember) : (limit : Nat) → Walk Unit
  | 0 => pure ()
  | limit + 1 =>
    match member with
    | .property _ _ _ _ type => type.toList.forM fun tree => checkTypeIn w place tree limit
    | .method _ _ _ shape => checkShape w place shape limit
    | .call shape => checkShape w place shape limit
    | .construct shape => checkShape w place shape limit
    | .index _ _ key type => do
      checkTypeIn w place key limit
      checkTypeIn w place type limit

/-- A written type, with reports of the unknown names in it. -/
def checkTypeIn (w : Walker) (place : Place) (tree : TypeTree) : (limit : Nat) → Walk Unit
  | 0 => pure ()
  | limit + 1 => do
    let all (trees : List TypeTree) : Walk Unit := trees.forM fun tree => checkTypeIn w place tree limit
    match tree with
    | .name site path arguments => do
      checkTypeName place site path
      all arguments
    | .template _ holes => all holes
    | .array element => all [element]
    | .readonly type => all [type]
    | .tuple items => all (items.map (·.type))
    | .function shape => checkShape w place shape limit
    | .construct _ shape => checkShape w place shape limit
    | .record members => members.forM fun m => checkMember w place m limit
    | .union members => all members
    | .intersection members => all members
    | .keysOf type => all [type]
    | .valueType site path arguments => do
      match path with
      | [] => pure ()
      | name :: _ =>
        readValue place name
        if (place.scope.find .value name).isNone && (place.scope.boundType? name).isNone
            && (place.scope.find .space name).isNone then
          Walk.report site (unknownName name)
      all arguments
    | .imported source _ _ arguments => do
      checkModule place source.name source.site
      all arguments
    | .indexed container key => all [container, key]
    | .predicate _ _ type => all type.toList
    | .conditional checked wanted whenTrue whenFalse => do
      let names := Resolver.foundNames 32 wanted
      let inner := w.binding place names
      all [checked, whenFalse]
      checkTypeIn w inner wanted limit
      checkTypeIn w inner whenTrue limit
    | .found formal => all formal.bound.toList
    | .mapped key renamed _ _ type => do
      all key.bound.toList
      let inner :=
        place.within (.types [⟨key.name, .parameter (place.scope.home key.site) key.name none⟩])
      renamed.toList.forM fun tree => checkTypeIn w inner tree limit
      type.toList.forM fun tree => checkTypeIn w inner tree limit
    | .literal _ => pure ()
    | .other => pure ()

end

/-- **A written type**, with reports of the unknown names in it. -/
def checkType (w : Walker) (place : Place) (tree : TypeTree) : Walk Unit :=
  checkTypeIn w place tree (w.resolver.limit + 1)

/-- The meaning of a written type at a place. -/
def typeAt (w : Walker) (place : Place) (tree : TypeTree) : Walk SourceType := do
  return w.resolver.type (← Walk.scope place) tree

/-- A written type with its meaning, checked. -/
def checkedType (w : Walker) (place : Place) (tree : TypeTree) : Walk SourceType := do
  w.checkType place tree
  w.typeAt place tree

/-! ## Names -/

/-- The home of the variable that a name stands for. -/
def variableHome? (s : Scope) (name : Text) : Option Home :=
  match s.find .value name with
  | some (.declared outer _ declarations) =>
    (declarations.find? (·.isValue)).map fun d => outer.home d.site
  | _ => none

/-- What a name is, among variables: how it is declared. -/
def variableNamed? (s : Scope) (name : Text) : Option (Scope × Declaration) :=
  match s.find .value name with
  | some (.declared outer _ declarations) =>
    (declarations.find? (·.isValue)).map fun d => (outer, d)
  | _ => none

/-- Whether a name is that of a constant. -/
def isConstant (s : Scope) (name : Text) : Bool :=
  match variableNamed? s name with
  | some (_, .variable _ kind _) => kind = .constant
  | some (_, .bound _ isConstant _) => isConstant
  | _ => false

/-- Whether what a name stands for does not change where it is known about. -/
def isStable (place : Place) (name : Text) : Bool :=
  match variableNamed? place.scope name with
  | some (_, .variable _ kind _) => kind = .constant || !place.later.contains name
  | some (_, .bound _ isConstant _) => isConstant || !place.later.contains name
  | some _ => true
  | none => false

/-- The declared type of a name at a place; nothing if nothing goes by it. -/
def declaredType? (w : Walker) (place : Place) (name : Text) : Walk (Option SourceType) := do
  let s ← Walk.scope place
  if name == "arguments" && place.hasArguments then
    return some (.standard "IArguments" [])
  return (s.find .value name).map (w.resolver.found s)

/-- The report of a name among values that nothing declares. -/
def reportUnknown (place : Place) (site : Site) (name : Text) : Walk Unit :=
  if (place.scope.find .type name).isSome || (keywordType? name).isSome then
    Walk.report site ("'" ++ name ++ "' only refers to a type, but is being used as a value here.")
  else Walk.report site (unknownName name)

/-- **The type of a name at a place**, with a report if nothing declares it. -/
def nameType (w : Walker) (place : Place) (site : Site) (name : Text) : Walk SourceType := do
  readValue place name
  match ← w.declaredType? place name with
  | none =>
    reportUnknown place site name
    return .any
  | some declared =>
    match variableHome? place.scope name with
    | none => return declared
    | some home =>
      match ← Walk.flow with
      | none => return declared
      | some facts => return (facts.lookup ⟨some home, []⟩).getD declared

/-! ## References -/

/-- The name of a member, if the key of an element says it. -/
def keyText? : Expression → Option Text
  | .literal _ (.text name) => some name
  | .literal _ (.number value) => some value.toText
  | .group _ inner => keyText? inner
  | _ => none

/-- **What a fact about an expression is about.** -/
def reference? (place : Place) : Expression → Option Reference
  | .name _ name => (variableHome? place.scope name).map fun home => ⟨some home, []⟩
  | .receiver _ => some ⟨none, []⟩
  | .member container _ name _ => (reference? place container).map fun r => r.member name
  | .element container (.name _ key) _ =>
    if isStable place key then
      match reference? place container, variableHome? place.scope key with
      | some r, some home => some (r.member ("[" ++ home.toText ++ "]"))
      | _, _ => none
    else none
  | .element container key _ =>
    match reference? place container, keyText? key with
    | some r, some name => some (r.member name)
    | _, _ => none
  | .group _ inner => reference? place inner
  | .nonNull inner => reference? place inner
  | .satisfies inner _ => reference? place inner
  | .assign target operator _ => if operator == "=" then reference? place target else none
  | .binary _ operator right => if operator == "," then reference? place right else none
  | _ => none

/-- What is known of an expression, beyond the types that it is made of. -/
def fact? (place : Place) (e : Expression) : Walk (Option SourceType) := do
  match ← Walk.flow, reference? place e with
  | some facts, some reference => return facts.lookup reference
  | _, _ => return none

/-- How an expression is written that is made of names alone. -/
def entityText? : Expression → Option Text
  | .name _ own => some own
  | .member container _ own _ => (entityText? container).map fun text => text ++ "." ++ own
  | _ => none

/-! ## Values that may be missing -/

/-- What is missing among the values of a type, as it is said. -/
def missingText (all : List SourceType) : Text :=
  let missing (one : SourceType) : Bool := all.any one.isLike
  if missing .null && missing .undefined then "'null' or 'undefined'"
  else if missing .null then "'null'"
  else "'undefined'"

/-- A type without `null` and `undefined`, with a report if one of them is possible. -/
def presentType (place : Place) (e : Expression) (type : SourceType) : Walk SourceType := do
  let strict := place.scope.strict
  if !strict then return type
  let all := type.alternatives
  if !all.any SourceType.isNothing then return type
  let message : Text :=
    match entityText? e with
    | some text =>
      if text == "undefined" then "The value 'undefined' cannot be used here."
      else "'" ++ text ++ "' is possibly " ++ missingText all ++ "."
    | none =>
      match e with
      | .null _ => "The value 'null' cannot be used here."
      | _ => "Object is possibly " ++ missingText all ++ "."
  Walk.report e.site message
  if all.all SourceType.isNothing then return .other
  return type.present strict

/-- A type without what stands for nothing. -/
def presentOf (place : Place) (type : SourceType) : SourceType := type.present place.scope.strict

/-- Whether a type may be `undefined` or `null`. -/
def mayBeMissing (type : SourceType) : Bool := type.alternatives.any SourceType.isNothing

end Walker

end Turnstile.Source
