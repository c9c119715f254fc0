import Turnstile.Source.Walker.Call
import Turnstile.Source.Walker.Narrowing

/-! # What conditions tell

* **`Walker.narrow`** cuts down what is known of an expression, and of what it is a member of.
* **`Walker.wholeCondition`** walks over a condition: what is known behind it if it holds, and if it
  does not. -/

namespace Turnstile.Source.Walker

/-- The type of an expression as it is known here. -/
def typeNow (w : Walker) (place : Place) (e : Expression) : Walk SourceType :=
  Walk.aside (w.expression place none e)

/-- What is known of an expression is that it is there. -/
def knowPresent (w : Walker) (place : Place) (e : Expression) : Walk Unit := do
  match reference? place e with
  | some reference =>
    let type ← w.typeNow place e
    if mayBeMissing type then Walk.know reference (presentOf place type)
  | none => pure ()

/-- All that an expression goes on from where it is there is there. -/
def knowChain (w : Walker) (place : Place) : Expression → Walk Unit
  | .member container _ _ isOptional => do
    knowChain w place container
    if isOptional then w.knowPresent place container
  | .element container _ isOptional => do
    knowChain w place container
    if isOptional then w.knowPresent place container
  | .call callee _ _ isOptional => do
    knowChain w place callee
    if isOptional then w.knowPresent place callee
  | .group _ inner => knowChain w place inner
  | .nonNull inner => knowChain w place inner
  | _ => pure ()

/-- What a type has under a name; nothing where it is not there at all. -/
def partType? (r : Resolver) (s : Scope) (name : Text) (one : SourceType) : Option SourceType :=
  if one.isNothing then some .undefined else r.propertyType? s name one

/-- What is left of a union whose members are told apart by what they have under a name. -/
def cutByPart (r : Resolver) (s : Scope) (name : Text) (change : SourceType → SourceType)
    (type : SourceType) : SourceType :=
  let all := type.alternatives
  let parts := all.map fun one => (one, partType? r s name one)
  let known := parts.filterMap (·.2)
  let isTelling := 1 < all.length && known.length = all.length
    && (known.any fun part => part.alternatives.any SourceType.isUnit)
    && (match known with
        | first :: rest => rest.any fun part => !part.isLike first
        | [] => false)
  if isTelling then
    let left := change (.unionOf s.strict known)
    Narrowing.cut s.strict type fun one =>
      match partType? r s name one with
      | some part => Narrowing.areComparable r s left part
      | none => true
  else type

/-- What an expression is a member of, and the name of the member. -/
def container? : Expression → Option (Expression × Text)
  | .member container _ name _ => some (container, name)
  | .element container key _ => (keyText? key).map fun name => (container, name)
  | .group _ inner => container? inner
  | .nonNull inner => container? inner
  | _ => none

/-- The variable that a name was taken from by its pattern, with the name of the member. -/
def takenFrom? (place : Place) (name : Text) : Option (Expression × Text) :=
  match variableNamed? place.scope name with
  | some (_, .variable site .constant d) =>
    match d.pattern, d.value with
    | .record _ parts, some value =>
      parts.findSome? fun part =>
        match part with
        | .property (.known _ key) _ (.name own _) none =>
          if own.offset = site.offset then some (value, key) else none
        | _ => none
    | _, _ => none
  | _ => none

/-- **What is known of an expression is cut down** by a change of its type. -/
def narrow (w : Walker) (place : Place) (e : Expression) (change : SourceType → SourceType) :
    Walk Unit := do
  if (← Walk.flow).isNone then return
  let r := w.resolver
  let s ← Walk.scope place
  if s.strict && !((change .undefined).alternatives.any (·.isLike .undefined)) then
    w.knowChain place e
  match container? e with
  | some (container, name) =>
    match reference? place container with
    | some reference =>
      let type ← w.typeNow place container
      let left := cutByPart r s name change type
      if !left.isLike type then Walk.know reference left
    | none => pure ()
  | none => pure ()
  match reference? place e with
  | some reference =>
    let type ← w.typeNow place e
    let left := change type
    if !left.isLike type then Walk.know reference left
  | none => pure ()
  match e.bare with
  | .name _ name =>
    match takenFrom? place name with
    | some (source, key) =>
      match reference? place source with
      | some reference =>
        let type ← w.typeNow place source
        let left := cutByPart r s key change type
        if !left.isLike type then
          Walk.know reference left
          match variableNamed? place.scope name with
          | some (outer, .variable _ _ d) =>
            for n in d.pattern.names do
              if n.name ≠ name then
                match d.pattern with
                | .record _ parts =>
                  for part in parts do
                    match part with
                    | .property (.known _ own) _ (.name site _) none =>
                      if site.offset = n.site.offset then
                        match r.propertyType? s own left with
                        | some found => Walk.know ⟨some (outer.home site), []⟩ found
                        | none => pure ()
                    | _ => pure ()
                | _ => pure ()
          | _ => pure ()
      | none => pure ()
    | none => pure ()
  | _ => pure ()

/-- What is known behind a change, and behind another one, both from here. -/
def bothWays (whenTrue whenFalse : Walk Unit) : Walk (Flow × Flow) := do
  let start ← Walk.flow
  whenTrue
  let yes ← Walk.flow
  Walk.goOn start
  whenFalse
  let no ← Walk.flow
  Walk.goOn start
  return (yes, no)

/-! ## Comparisons -/

/-- Whether an expression is the word for the type of a value. -/
def wordOperand? (e : Expression) : Option Expression :=
  match e.bare with
  | .unary _ operator operand => if operator == "typeof" then some operand else none
  | _ => none

/-- The fixed text that an expression is. -/
def fixedText? (e : Expression) : Option Text :=
  match e.bare with
  | .literal _ (.text value) => some value
  | _ => none

/-- The fixed truth that an expression is. -/
def fixedTruth? (e : Expression) : Option Bool :=
  match e.bare with
  | .literal _ (.boolean value) => some value
  | _ => none

/-- Whether something can be known of an expression, or of what it is a member of. -/
def isKnowable (place : Place) (e : Expression) : Bool :=
  (reference? place e).isSome || isChain e.bare

/-- What it tells that two values are equal, or are not. -/
def narrowEqual (w : Walker) (place : Place) (holds isLoose : Bool) (left right : Expression) :
    Walk Unit := do
  if (← Walk.flow).isNone then return
  let r := w.resolver
  let byWord (operand : Expression) (word : Text) : Walk Unit := do
    let s ← Walk.scope place
    w.narrow place operand (Narrowing.word r s holds word)
  let byTruth (e : Expression) (value : Bool) : Walk Unit := do
    let outcome ← Walk.quietly (w.condition place none e)
    Walk.goOn (if value == holds then outcome.whenTrue else outcome.whenFalse)
  match wordOperand? left, fixedText? right, wordOperand? right, fixedText? left with
  | some operand, some word, _, _ => byWord operand word
  | _, _, some operand, some word => byWord operand word
  | _, _, _, _ =>
    match fixedTruth? right, isKnowable place left, fixedTruth? left, isKnowable place right with
    | some value, false, _, _ => byTruth left value
    | _, _, some value, false => byTruth right value
    | _, _, _, _ =>
      let s ← Walk.scope place
      let leftType ← if isKnowable place right then w.typeNow place left else pure .other
      if isKnowable place left then
        let rightType ← w.typeNow place right
        w.narrow place left (Narrowing.equality r s holds isLoose rightType)
      if isKnowable place right then
        w.narrow place right (Narrowing.equality r s holds isLoose leftType)

/-- The type of the instances that a value makes. -/
def instanceType? (r : Resolver) (s : Scope) (type : SourceType) : Option SourceType :=
  if type.isAny then none
  else
    match r.propertyType? s "prototype" type with
    | some found =>
      if found.isAny then
        match r.constructsOf s type with
        | [] => none
        | calls => some (.unionOf s.strict (calls.map fun c => (r.erased s c).result))
      else some found
    | none =>
      match r.constructsOf s type with
      | [] => none
      | calls => some (.unionOf s.strict (calls.map fun c => (r.erased s c).result))

/-- What it tells that a value is an instance of a class, or is not. -/
def narrowInstance (w : Walker) (place : Place) (holds : Bool)
    (e container : Expression) : Walk Unit := do
  let s ← Walk.scope place
  let type ← w.typeNow place container
  match instanceType? w.resolver s type with
  | some candidate => w.narrow place e (Narrowing.ofClass w.resolver s holds candidate)
  | none =>
    if holds then
      match reference? place e with
      | some reference => Walk.know reference .other
      | none => pure ()

/-- What it tells that a value has a member, or does not. -/
def narrowPresence (w : Walker) (place : Place) (holds : Bool) (key e : Expression) : Walk Unit := do
  let s ← Walk.scope place
  match (← w.typeNow place key).keyName? with
  | some name => w.narrow place e (Narrowing.presence w.resolver s holds name)
  | none => pure ()

/-! ## Calls -/

/-- The argument that a result says something about, or what the member belongs to that is called. -/
def subject? (call : CallType) (predicate : PredicateType) (callee : Expression)
    (arguments : List Expression) : Option Expression :=
  if predicate.subject == "this" then
    match callee.bare with
    | .member container _ _ _ => some container
    | _ => none
  else
    arguments[call.formals.findIdx fun f => f.name = predicate.subject]?

/-- What the result of a call tells about an argument. -/
def narrowCall (w : Walker) (place : Place) (holds : Bool) (call : CallType) (callee : Expression)
    (arguments : List Expression) : Walk Unit := do
  let s ← Walk.scope place
  match call.predicate with
  | some predicate =>
    match subject? call predicate callee arguments, predicate.type with
    | some e, some type => w.narrow place e (Narrowing.asserted w.resolver s holds type)
    | some e, none =>
      if predicate.asserted then
        let outcome ← Walk.quietly (w.condition place none e)
        Walk.goOn outcome.whenTrue
    | none, _ => pure ()
  | none => pure ()

/-! ## Conditions -/

/-- The values of a type that count as false. -/
def falseValues (type : SourceType) : List SourceType :=
  type.alternatives.filterMap fun one =>
    match one with
    | .string => some (.literal (.text []) false)
    | .number => some (.literal (.number (.zero false)) false)
    | .integer => some (.literal (.integer 0) false)
    | one => if Narrowing.mayBeFalse one then some one else none

/-- The type of a choice between two values by the first one: by whether it is true, false or there. -/
def choiceType (strict : Bool) (operator : Text) (left right : SourceType) : SourceType :=
  let all := left.alternatives
  if operator == "&&" then
    if left.isAny then left
    else if all.any Narrowing.mayBeTrue then .unionOf strict (falseValues left ++ [right])
    else left
  else if operator == "||" then
    if left.isAny then left
    else if all.any Narrowing.mayBeFalse then
      .unionOf strict (all.filter (fun one => Narrowing.mayBeTrue one) ++ [right])
    else left
  else if left.isAny then left
  else if left.isLike .unknown || all.any SourceType.isNothing || !strict then
    .unionOf strict (all.filter (fun one => !one.isNothing) ++ [right])
  else left

/-- What is said by a value that counts as true or does not. -/
def truthOutcome (w : Walker) (place : Place) (type : SourceType) (e : Expression) : Walk Outcome := do
  let strict := place.scope.strict
  let (yes, no) ← bothWays (w.narrow place e (Narrowing.truth strict true))
    (w.narrow place e (Narrowing.truth strict false))
  return ⟨type, yes, no⟩

/-- What is known of variables that do not change, from a flow that is known to be reached. -/
def keepStable (before after : Flow) (roots : List Home) : Flow :=
  match before, after with
  | some old, some new =>
    let isKept (reference : Reference) : Bool :=
      match reference.root with
      | some home => roots.contains home
      | none => true
    some (new.filter (fun (reference, _) => isKept reference)
      ++ old.filter fun (reference, _) => !isKept reference || (new.lookup reference).isNone)
  | _, after => after

/-- A condition that a constant stands for. -/
def namedCondition? (place : Place) (name : Text) : Option Expression :=
  match variableNamed? place.scope name with
  | some (_, .variable _ .constant ⟨.name .., none, some value⟩) =>
    match value.bare with
    | .binary .. => some value
    | .unary .. => some value
    | .call .. => some value
    | _ => none
  | _ => none

/-- The homes of the variables in an expression that do not change. -/
def stableHomes (place : Place) : (limit : Nat) → Expression → List Home
  | 0, _ => []
  | limit + 1, e =>
    match e with
    | .name _ name =>
      if isStable place name then (variableHome? place.scope name).toList else []
    | .member container _ _ _ => stableHomes place limit container
    | .element container key _ => stableHomes place limit container ++ stableHomes place limit key
    | .group _ inner => stableHomes place limit inner
    | .unary _ _ operand => stableHomes place limit operand
    | .binary left _ right => stableHomes place limit left ++ stableHomes place limit right
    | .call callee _ arguments _ =>
      stableHomes place limit callee ++ arguments.flatMap (stableHomes place limit)
    | _ => []

/-- **A condition walked over** by parts: what is known behind it. -/
def wholeCondition (w : Walker) (place : Place) (wanted : Option SourceType) (e : Expression) :
    Walk Outcome := do
  let strict := place.scope.strict
  match e with
  | .group _ inner => w.condition place wanted inner
  | .literal _ (.boolean value) =>
    let type ← w.expression place wanted e
    let flow ← Walk.flow
    return if value then ⟨type, flow, none⟩ else ⟨type, none, flow⟩
  | .unary _ operator operand =>
    if operator == "!" then
      let outcome ← w.condition place none operand
      let all := outcome.type.alternatives
      let type : SourceType :=
        if outcome.type.isAny || outcome.type.isLike .unknown then .boolean
        else if !all.any Narrowing.mayBeFalse then .literal (.boolean false) true
        else if !all.any Narrowing.mayBeTrue then .literal (.boolean true) true
        else .boolean
      return ⟨type, outcome.whenFalse, outcome.whenTrue⟩
    else
      let type ← w.expression place wanted e
      w.truthOutcome place type e
  | .binary left operator right =>
    if operator == "&&" then
      let a ← w.condition place none left
      Walk.goOn a.whenTrue
      let b ← w.condition place wanted right
      return ⟨choiceType strict operator a.type b.type, b.whenTrue,
        Flow.join strict a.whenFalse b.whenFalse⟩
    else if operator == "||" then
      let a ← w.condition place wanted left
      Walk.goOn a.whenFalse
      let b ← w.condition place (wanted.or (some a.type)) right
      return ⟨choiceType strict operator a.type b.type, Flow.join strict a.whenTrue b.whenTrue,
        b.whenFalse⟩
    else if operator == "," then
      let _ ← w.expression place none left
      w.condition place wanted right
    else
      let type ← w.expression place wanted e
      let compare (isSame isLoose : Bool) : Walk Outcome := do
        let (yes, no) ← bothWays (w.narrowEqual place isSame isLoose left right)
          (w.narrowEqual place (!isSame) isLoose left right)
        return ⟨type, yes, no⟩
      if operator == "===" then compare true false
      else if operator == "!==" then compare false false
      else if operator == "==" then compare true true
      else if operator == "!=" then compare false true
      else if operator == "instanceof" then
        let (yes, no) ← bothWays (w.narrowInstance place true left right)
          (w.narrowInstance place false left right)
        return ⟨type, yes, no⟩
      else if operator == "in" then
        let (yes, no) ← bothWays (w.narrowPresence place true left right)
          (w.narrowPresence place false left right)
        return ⟨type, yes, no⟩
      else w.truthOutcome place type e
  | .call callee typeTrees arguments isOptional =>
    let called ← w.call place wanted callee typeTrees arguments isOptional
    let type := if called.mayEnd then SourceType.orUndefined strict called.result else called.result
    match called.chosen with
    | some call =>
      if (call.predicate.map (·.asserted)) == some false then
        let (yes, no) ← bothWays
          (do w.knowChain place e; w.narrowCall place true call callee arguments)
          (w.narrowCall place false call callee arguments)
        return ⟨type, yes, no⟩
      else w.truthOutcome place type e
    | none => w.truthOutcome place type e
  | .name _ name =>
    let type ← w.expression place wanted e
    let outcome ← w.truthOutcome place type e
    match namedCondition? place name with
    | some condition =>
      let start ← Walk.flow
      let roots := stableHomes place 16 condition
      Walk.goOn outcome.whenTrue
      let yes ← Walk.quietly (w.condition place none condition)
      Walk.goOn outcome.whenFalse
      let no ← Walk.quietly (w.condition place none condition)
      Walk.goOn start
      return ⟨type, keepStable outcome.whenTrue yes.whenTrue roots,
        keepStable outcome.whenFalse no.whenFalse roots⟩
    | none => return outcome
  | e =>
    let type ← w.expression place wanted e
    w.truthOutcome place type e

end Turnstile.Source.Walker
