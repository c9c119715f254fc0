import Turnstile.Source.Walker.Declaration

/-! # Statements walked over

* **`Walker.block`** walks over the statements of a block, with what they declare around them.
* **`Walker.repeated`** walks over a loop: what is known at its start holds whenever control comes
  there.
* **`Walker.choose`** walks over a choice by cases, **`Walker.attempt`** over code that may fail.
* **`Walker.wholeStatement`** walks over a statement by parts. -/

namespace Turnstile.Source.Walker

/-! ## Blocks -/

/-- How deep code is looked into for names that are assigned to. -/
def assignedDepth : Nat := 64

/-- What the statements of a block declare, and the variables of the whole function inside them. -/
def blockFrame (isOutermost : Bool) (all : List Statement) : Frame :=
  let hoisted := all.flatMap fun s =>
    (s.hoisted 32).map fun (n, d) => (n.name, Declaration.variable n.site .function d)
  .block (if isOutermost then hoisted else all.flatMap Statement.declared ++ hoisted)

/-- The places of statements one after the other: what is assigned to behind each of them, or by
functions in any of them. -/
def placesOf (place : Place) (all : List Statement) : List (Place × Statement) :=
  let assigned := all.map fun s => s.assigned assignedDepth
  let nested := (assigned.flatten.filter (·.isNested)).map (·.name)
  let behind := assigned.foldr (fun own later =>
    match later with
    | [] => [own.map (·.name)]
    | next :: _ => (own.map (·.name) ++ next) :: later) ([] : List (List Text))
  (all.zip behind).map fun (s, names) =>
    ({ place with later := (names ++ nested).eraseDups ++ place.later }, s)

/-- Statements walked over one after the other, in a place where what they declare is known. -/
def statementsIn (w : Walker) (place : Place) (all : List Statement) : Walk Unit :=
  (placesOf place all).forM fun (place, s) => w.statement place s

/-- **The statements of a block walked over.** -/
def block (w : Walker) (place : Place) (all : List Statement) : Walk Unit := do
  reportRepeated all
  w.statementsIn (place.within (blockFrame place.isOutermost all)) all

/-! ## Expressions that stand alone -/

/-- Whether what an expression stands for says by itself what its calls give. -/
def isExplicit (place : Place) : Expression → Bool
  | .name _ name =>
    match variableNamed? place.scope name with
    | some (_, .variable _ _ d) => d.type.isSome
    | some (_, .bound ..) => true
    | some _ => true
    | none => (place.scope.find .value name).isSome
  | .receiver _ => true
  | .member container _ _ _ => isExplicit place container
  | .group _ inner => isExplicit place inner
  | _ => false

/-- **An expression that stands alone walked over**: its value is not used. A call that never returns
ends the way of control, and one that returns only if something holds says so. -/
def alone (w : Walker) (place : Place) : (limit : Nat) → Expression → Walk Unit
  | 0, _ => pure ()
  | limit + 1, e => do
    match e with
    | .assign target operator value => discard (w.assign place false target operator value)
    | .step _ target => discard (w.step place false target)
    | .binary left operator right =>
      if operator == "," then
        alone w place limit left
        alone w place limit right
      else discard (w.expression place none e)
    | .call callee typeArguments arguments isOptional =>
      let called ← w.call place none callee typeArguments arguments isOptional
      match called.chosen with
      | some call =>
        if isExplicit place callee then
          if call.result.isLike .never && !called.mayEnd then Walk.stop
          else if (call.predicate.map (·.asserted)) == some true then
            w.narrowCall place true call callee arguments
      | none => pure ()
    | e => discard (w.expression place none e)

/-- Whether an expression is a call of a function whose result is being found. -/
def isOwnCall (place : Place) (e : Expression) : Bool :=
  match e.bare with
  | .call (.name _ name) _ _ _ =>
    match variableHome? place.scope name with
    | some home => place.scope.inferring.contains home
    | none => false
  | _ => false

/-- A return walked over. -/
def leave (w : Walker) (place : Place) (site : Site) (value : Option Expression) : Walk Unit := do
  match value with
  | some e =>
    let given ← w.expression place (wantedResult place) e
    let s ← Walk.scope place
    let settled := if place.duty.isAsync then w.resolver.awaited s given else given
    Walk.returns (some (if isOwnCall place e then .never else settled))
    match place.duty.result with
    | some result => w.fitReturned place site result 32 e given
    | none => pure ()
  | none =>
    Walk.returns none
    match place.duty.result with
    | some result => if place.scope.strict then w.fit place site none .undefined result
    | none => pure ()
  Walk.stop

/-! ## Loops -/

/-- Whether a jump ends at a loop with labels. -/
def landsAt (labels : List Text) (isAgain : Bool) (jump : Jump) : Bool :=
  jump.isAgain = isAgain && match jump.label with
    | none => true
    | some label => labels.contains label

/-- What is known whenever control comes to the start of a loop: what is known in front of it, and
still known behind each round, for as many rounds as given. -/
def headFlow (strict : Bool) (round : Walk Unit) : (limit : Nat) → Flow → Walk Flow
  | 0, _ => return some []
  | limit + 1, head => do
    match head with
    | none => return none
    | some [] => return some []
    | some facts =>
      let back ← Walk.aside do
        Walk.goOn (some facts)
        round
        Walk.flow
      let next := Flow.join strict (some facts) back
      if next.isSame (some facts) then return next else headFlow strict round limit next

/-- **A loop walked over**: `enter` walks over what is done before each round and says what is known
where a round starts, and where the loop ends; `again` is done behind a round. -/
def repeated (w : Walker) (place : Place) (enter : Walk (Flow × Flow)) (body : Statement)
    (again : Walk Unit) : Walk Unit := do
  let strict := place.scope.strict
  let labels := place.labels
  let inner := place.inner
  let round : Walk Flow := do
    let (start, exit) ← enter
    Walk.goOn start
    w.statement inner body
    let next ← Walk.land (landsAt labels true)
    Walk.goOnFrom strict ((← Walk.flow) :: next)
    again
    return exit
  let start ← Walk.flow
  let head ← headFlow strict (discard round) 8 start
  Walk.goOn head
  let exit ← round
  let left ← Walk.land (landsAt labels false)
  Walk.goOnFrom strict (exit :: left)

/-- A loop with a condition in front of its body walked over. -/
def loop (w : Walker) (place : Place) (start : List Statement) (condition next : Option Expression)
    (body : Statement) : Walk Unit := do
  let inner := { place with isOutermost := false }.within (.block (start.flatMap Statement.declared))
  reportRepeated start
  w.statementsIn { inner with labels := [] } start
  let enter : Walk (Flow × Flow) := do
    match condition with
    | some e =>
      let outcome ← w.condition inner none e
      return (outcome.whenTrue, outcome.whenFalse)
    | none => return (← Walk.flow, none)
  w.repeated inner enter body (next.toList.forM (alone w inner 32))

/-- A loop with a condition behind its body walked over. -/
def loopOnce (w : Walker) (place : Place) (body : Statement) (condition : Expression) : Walk Unit := do
  let strict := place.scope.strict
  let labels := place.labels
  let round : Walk Flow := do
    w.statement place.inner body
    let next ← Walk.land (landsAt labels true)
    Walk.goOnFrom strict ((← Walk.flow) :: next)
    let outcome ← w.condition place none condition
    Walk.goOn outcome.whenTrue
    return outcome.whenFalse
  let start ← Walk.flow
  let head ← headFlow strict (discard round) 8 start
  Walk.goOn head
  let exit ← round
  let left ← Walk.land (landsAt labels false)
  Walk.goOnFrom strict (exit :: left)

/-- What a loop goes through walked over: the type of one value. -/
def eachValue (w : Walker) (place : Place) (isOver isAsync : Bool) (value : Expression) :
    Walk SourceType := do
  let type ← w.expression place none value
  if isOver then
    let type ← presentType place value type
    let s ← Walk.scope place
    let r := w.resolver
    return (if isAsync then r.iteratedAsync? s type else r.iterated? s type).getD .other
  else return .string

/-- A loop through values that are bound to a pattern walked over. -/
def each (w : Walker) (place : Place) (isOver isAsync : Bool) (kind : VariableKind) (pattern : Pattern)
    (value : Expression) (body : Statement) : Walk Unit := do
  let type ← w.eachValue place isOver isAsync value
  let inner := { place with isOutermost := false }.within
    (frameOf (kind == VariableKind.constant) false pattern.names)
  (ownVariables inner pattern.site 1 pattern).forM fun own =>
    if isSpare own.name then pure () else Walk.declare own
  let enter : Walk (Flow × Flow) := do
    let names ← w.bindPattern inner 64 pattern ⟨type, none, false⟩
    bound inner (names.map fun (n, type) => (n, valueType place.scope.strict kind type))
    names.forM fun (n, _) => Walk.forget ⟨some (inner.scope.home n.site), []⟩
    let flow ← Walk.flow
    return (flow, flow)
  w.repeated inner enter body (pure ())

/-- A loop through values that are assigned to something walked over. -/
def eachInto (w : Walker) (place : Place) (isOver isAsync : Bool) (target value : Expression)
    (body : Statement) : Walk Unit := do
  let type ← w.eachValue place isOver isAsync value
  let enter : Walk (Flow × Flow) := do
    let before ← Walk.flow
    w.assignParts place 32 target type
    let flow ← Walk.flow
    return (flow, Flow.join place.scope.strict before flow)
  w.repeated place enter body (pure ())

/-! ## Choices -/

/-- Whether the single values of a type all have a case. -/
def isExhausted (given : SourceType) (tests : List SourceType) : Bool :=
  !given.isAny && given.alternatives.all fun one =>
    one.isLike .never || (one.isUnit && tests.any one.isLike)

/-- Whether the words for the type of a value all have a case. -/
def isWordExhausted (r : Resolver) (s : Scope) (type : SourceType)
    (words : List (Option Text)) : Bool :=
  let left := words.foldl (fun type word =>
    match word with
    | some word => Narrowing.word r s false word type
    | none => type) type
  left.isLike .never

/-- **A choice by cases walked over.** -/
def choose (w : Walker) (place : Place) (value : Expression) (cases : List Case) : Walk Unit := do
  let r := w.resolver
  let strict := place.scope.strict
  let given ← w.expression place none value
  let all := cases.flatMap (·.body)
  reportRepeated all
  let labels := place.labels
  let inner := place.inner.within (.block (all.flatMap Statement.declared))
  let inner := { inner with
    later := (all.flatMap fun s => (s.assigned assignedDepth).map (·.name)) ++ inner.later }
  let isTruth := fixedTruth? value == some true
  let start ← Walk.flow
  let enter (holds : Bool) (test : Expression) : Walk Unit := do
    if isTruth then
      let outcome ← Walk.quietly (w.condition inner none test)
      Walk.goOn (if holds then outcome.whenTrue else outcome.whenFalse)
    else w.narrowEqual inner holds false value test
  let types ← (cases.filterMap (·.test)).mapM fun test => do
    Walk.goOn start
    w.expression inner (some given) test
  Walk.goOn start
  (cases.filterMap (·.test)).forM (enter false)
  let otherwise ← Walk.flow
  let (before, _) ← cases.foldlM (fun (before, passed) c => do
    let entry ← match c.test with
      | some test => do
        Walk.goOn (if isTruth then passed else start)
        enter true test
        Walk.flow
      | none => pure otherwise
    let passed ← match c.test with
      | some test => do
        Walk.goOn passed
        if isTruth then enter false test
        Walk.flow
      | none => pure passed
    Walk.goOnFrom strict [entry, before]
    w.statementsIn inner c.body
    return (← Walk.flow, passed)) ((none : Flow), start)
  let left ← Walk.land (landsAt labels false)
  let s ← Walk.scope place
  let hasDefault := cases.any (·.test.isNone)
  let isWhole ← match wordOperand? value with
    | some operand => do
      Walk.goOn start
      let type ← w.typeNow place operand
      pure (isWordExhausted r s type ((cases.filterMap (·.test)).map fixedText?))
    | none => pure (isExhausted given types)
  let passing := if hasDefault || (isWhole && !isTruth) then none else otherwise
  Walk.goOnFrom strict ([passing, before] ++ left)

/-- A choice between two statements walked over. -/
def branch (w : Walker) (place : Place) (condition : Expression) (whenTrue : Statement)
    (whenFalse : List Statement) : Walk Unit := do
  let outcome ← w.condition place none condition
  Walk.goOn outcome.whenTrue
  w.statement place.inner whenTrue
  let one ← Walk.flow
  Walk.goOn outcome.whenFalse
  whenFalse.forM (w.statement place.inner)
  let other ← Walk.flow
  Walk.goOnFrom place.scope.strict [one, other]

/-! ## Code that may fail -/

/-- **Code that may fail walked over**, with what handles its failure and what is done at last. What is
assigned to in the code is not known where it failed. -/
def attempt (w : Walker) (place : Place) (body : List Statement) (isHandled : Bool)
    (caught : List Binder) (handler final : List Statement) : Walk Unit := do
  let strict := place.scope.strict
  let inner := place.inner
  let start ← Walk.flow
  let before := (← get).assigned
  modify fun found => { found with assigned := [] }
  w.block inner body
  let ended ← Walk.flow
  let touched := (← get).assigned
  modify fun found => { found with assigned := touched ++ before }
  let failed := touched.foldl Flow.forgetting start
  let handled ← if !isHandled then pure none else do
    Walk.goOn failed
    let names := caught.flatMap fun b => b.pattern.names
    let place := inner.within (frameOf false false names)
    caught.forM fun b => do
      let type ← match b.formal.type with
        | some tree => w.checkedType place tree
        | none => pure (if strict then SourceType.unknown else .any)
      bound place (← w.bindPattern place 64 b.pattern ⟨type, none, true⟩)
    w.block place handler
    Walk.flow
  let normal := Flow.join strict ended handled
  let touched := (← get).assigned
  if final.isEmpty then Walk.goOn normal
  else
    let broken := touched.foldl Flow.forgetting start
    Walk.goOnFrom strict [normal, failed, broken]
    w.block inner final
    let behind ← Walk.flow
    if behind.isNone || normal.isNone then Walk.stop
    else
      Walk.goOn normal
      let after ← Walk.aside do
        w.block inner final
        Walk.flow
      Walk.goOn after

/-! ## The whole -/

/-- **A statement walked over** by parts. -/
def wholeStatement (w : Walker) (place : Place) (statement : Statement) : Walk Unit := do
  let strict := place.scope.strict
  match statement with
  | .bindings modifiers kind site declarators =>
    declarators.forM (w.declarator place modifiers kind site declarators.length)
  | .evaluate e => alone w place 32 e
  | .leave site value => w.leave place site value
  | .branch condition whenTrue whenFalse => w.branch place condition whenTrue whenFalse
  | .loop start condition next body => w.loop place start condition next body
  | .loopOnce body condition => w.loopOnce place body condition
  | .each isOver isAsync kind pattern value body => w.each place isOver isAsync kind pattern value body
  | .eachInto isOver isAsync target value body => w.eachInto place isOver isAsync target value body
  | .labelled label body =>
    w.statement { place with labels := label :: place.labels } body
    let left ← Walk.land fun jump => !jump.isAgain && jump.label == some label
    Walk.goOnFrom strict ((← Walk.flow) :: left)
  | .block all => w.block place.inner all
  | .raise value =>
    let _ ← w.expression place none value
    Walk.stop
  | .attempt body isHandled caught handler final => w.attempt place body isHandled caught handler final
  | .choose value cases => w.choose place value cases
  | .jump isAgain label => Walk.jump isAgain label
  | .empty => pure ()
  | s => w.declaration place s

end Turnstile.Source.Walker
