import Turnstile.Source.Flow

/-! # Walks over code

* **`Findings`** is what a walk over code collects: **reports** of faults, the names that are declared
  and those that are read, the types of values found so far, and what is known where control is.
* **`Walk`** is a walk that collects findings; **`Walk.aside`** keeps nothing of it. -/

namespace Turnstile.Source

/-- A fault with its site and its wording. -/
structure Report where
  site : Site
  message : Text
  deriving DecidableEq

/-- What is read: a declared name, or a member of a class. -/
structure Reading where
  home : Home
  member : Option Text
  deriving DecidableEq

/-- What kind of declaration a name has. -/
inductive DeclarationKind where
  /-- A variable of a list of declarators, which starts at a site and has a number of them. -/
  | variable (group : Site) (count : Nat)
  /-- A part of what a pattern takes apart, which stands at a site and has a number of names. -/
  | part (group : Site) (count : Nat) (isParameter : Bool)
  | parameter
  | function
  /-- A parameter of a constructor that is a member of its class. -/
  | property
  | type
  | imported (group : Site)
  deriving DecidableEq

/-- A name that is seen by its source alone, or inside of a function, a block or a class. -/
structure OwnName where
  name : Text
  site : Site
  reading : Reading
  kind : DeclarationKind

/-- A way by which control leaves a statement early. -/
structure Jump where
  /-- Whether it goes on with the next round of a loop. -/
  isAgain : Bool
  label : Option Text
  facts : Facts

/-- **What a walk over code finds.** Lists have the latest first. -/
structure Findings where
  reports : List Report
  reads : List Reading
  own : List OwnName
  values : List (Home × SourceType)
  flow : Flow
  /-- What is returned; nothing where a function is left without a value. -/
  returned : List (Option SourceType)
  yielded : List SourceType
  jumps : List Jump
  /-- The variables that are assigned to. -/
  assigned : List Reference

/-- A **walk** that collects findings. -/
abbrev Walk := StateM Findings

namespace Findings

/-- Nothing found so far, with some values known. -/
def start (values : List (Home × SourceType)) : Findings :=
  ⟨[], [], [], values, some [], [], [], [], []⟩

end Findings

namespace Walk

/-- A fault. -/
def report (site : Site) (message : Text) : Walk Unit :=
  modify fun found => { found with reports := ⟨site, message⟩ :: found.reports }

/-- What a walk comes to, without keeping anything of it. -/
def aside {α : Type} (walk : Walk α) : Walk α := fun found => ((walk found).1, found)

/-- What a walk comes to, without keeping its reports and the names that it declares. -/
def quietly {α : Type} (walk : Walk α) : Walk α := fun found =>
  let (result, after) := walk found
  (result, { after with reports := found.reports, own := found.own, reads := found.reads })

/-- Something is read. -/
def read (reading : Reading) : Walk Unit :=
  modify fun found => { found with reads := reading :: found.reads }

/-- A walk over the declaration of a name, in which reading the name does not count. -/
def declaration {α : Type} (reading : Reading) (walk : Walk α) : Walk α := fun found =>
  let (result, inner) := walk { found with reads := [] }
  (result, { inner with reads := inner.reads.filter (· ≠ reading) ++ found.reads })

/-- A name is declared that is seen by its source alone. -/
def declare (own : OwnName) : Walk Unit := modify fun found => { found with own := own :: found.own }

/-- What is known where control is. -/
def flow : Walk Flow := do return (← get).flow

/-- Control goes on with what is known. -/
def goOn (flow : Flow) : Walk Unit := modify fun found => { found with flow }

/-- Control never comes here. -/
def stop : Walk Unit := goOn none

/-- Control comes here by several ways. -/
def goOnFrom (strict : Bool) (ways : List Flow) : Walk Unit := goOn (Flow.joinAll strict ways)

/-- A reference is known to have a type. -/
def know (reference : Reference) (type : SourceType) : Walk Unit :=
  modify fun found => { found with flow := found.flow.knowing reference type }

/-- A reference is assigned to: nothing that was known of it holds any more. -/
def forget (reference : Reference) : Walk Unit :=
  modify fun found =>
    { found with flow := found.flow.forgetting reference, assigned := reference :: found.assigned }

/-- The type of a value is found. -/
def learn (home : Home) (type : SourceType) : Walk Unit :=
  modify fun found => { found with values := (home, type) :: found.values }

/-- Something is returned, or nothing. -/
def returns (type : Option SourceType) : Walk Unit :=
  modify fun found => { found with returned := type :: found.returned }

/-- Something is handed out by a generator. -/
def yields (type : SourceType) : Walk Unit :=
  modify fun found => { found with yielded := type :: found.yielded }

/-- Control leaves a statement early, if it comes here. -/
def jump (isAgain : Bool) (label : Option Text) : Walk Unit :=
  modify fun found =>
    match found.flow with
    | some facts => { found with flow := none, jumps := ⟨isAgain, label, facts⟩ :: found.jumps }
    | none => found

/-- The jumps of a kind, which end here. -/
def land (ends : Jump → Bool) : Walk (List Flow) := fun found =>
  ((found.jumps.filter ends).map fun j => some j.facts,
    { found with jumps := found.jumps.filter fun j => !ends j })

/-- What a function gives: what it returns and hands out in order, and whether control reaches its
end. -/
structure Given where
  returned : List (Option SourceType)
  yielded : List SourceType
  ends : Bool

/-- A walk over the code of a function, which starts with what is known there: what the walk comes
to, and what the function gives. -/
def inFunction {α : Type} (start : Flow) (walk : Walk α) : Walk (α × Given) := fun found =>
  let (result, inner) := walk { found with flow := start, returned := [], yielded := [], jumps := [] }
  ((result, ⟨inner.returned.reverse, inner.yielded.reverse, inner.flow.isSome⟩),
    { inner with
      flow := found.flow, returned := found.returned, yielded := found.yielded
      jumps := found.jumps, assigned := found.assigned })

end Walk

/-- The wording for a name that nothing declares. -/
def unknownName (name : Text) : Text := "Cannot find name '" ++ name ++ "'."

/-- What a function must do: the result that it must give, and how it hands it over. -/
structure Duty where
  result : Option SourceType
  /-- What is likely wanted from a function that declares no result. -/
  hint : Option SourceType
  isAsync : Bool
  /-- What a generator hands out one by one, and what it is handed back. -/
  yields : Option SourceType
  isGenerator : Bool

/-- **Where code stands.** -/
structure Place where
  scope : Scope
  duty : Duty
  /-- The names that are assigned to in the statements around or behind the place, or in functions
  inside its function. -/
  later : List Text
  /-- The labels of the statement. -/
  labels : List Text
  /-- Whether the place is in no function and no block. -/
  isOutermost : Bool
  /-- Whether the place is in a function that knows its arguments as a whole. -/
  hasArguments : Bool

namespace Place

/-- The place of the outermost statements of a source. -/
def ofScope (scope : Scope) : Place := ⟨scope, ⟨none, none, false, none, false⟩, [], [], true, false⟩

/-- A place with one more frame around it. -/
def within (place : Place) (frame : Frame) : Place := { place with scope := place.scope.within frame }

/-- A place of an expression: no statement of it stands in the open. -/
def inner (place : Place) : Place := { place with isOutermost := false, labels := [] }

end Place

namespace Walk

/-- The scope of a place, with the values that are known by now. -/
def scope (place : Place) : Walk Scope := do return { place.scope with values := (← get).values }

end Walk

end Turnstile.Source
