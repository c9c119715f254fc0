import Turnstile.Source.Walker.Fitting

/-! # Calls in code

* **`Walker.inferCall`** finds what the type parameters of a call stand for, from its arguments and
  from what is asked for.
* **`Walker.resolveCall`** holds the arguments of a call against the ways to call what is called, and
  chooses the first one that they fit.
* **`Walker.call`** and **`Walker.construct`** walk over calls. -/

namespace Turnstile.Source

/-- An argument of a call. -/
inductive Argument where
  | code (expression : Expression)
  /-- An argument of a known type, which stands for no expression of its own. -/
  | given (site : Site) (type : SourceType)
  /-- All elements of what can be gone through, with the type of one. -/
  | spread (expression : Expression) (element : SourceType)

namespace Argument

/-- Where an argument stands. -/
def site : Argument → Site
  | .code e => e.site
  | .given site _ => site
  | .spread e _ => e.site

/-- Whether an argument stands for any number of them. -/
def isSpread : Argument → Bool
  | .spread .. => true
  | _ => false

end Argument

namespace Walker

/-! ## Code whose type depends on what is asked for -/

mutual

/-- Whether the type of a function depends on what is asked for. -/
def isSensitiveFunction : (limit : Nat) → FunctionTree → Bool
  | 0, _ => false
  | limit + 1, tree =>
    (tree.typeFormals.isEmpty && tree.binders.any fun b =>
      b.formal.type.isNone && !Resolver.isReceiver b.formal)
      || (match tree.body with
          | .value e => tree.typeFormals.isEmpty && tree.result.isNone && isSensitive limit e
          | _ => false)

/-- Whether the type of an expression depends on what is asked for, looked for as deep as given. -/
def isSensitive : (limit : Nat) → Expression → Bool
  | 0, _ => false
  | limit + 1, e =>
    match e with
    | .function tree => isSensitiveFunction limit tree
    | .group _ inner => isSensitive limit inner
    | .array _ elements => elements.any (isSensitive limit)
    | .record _ items => items.any fun item =>
      match item with
      | .property _ value => isSensitive limit value
      | .method _ tree => isSensitiveFunction limit tree
      | _ => false
    | .conditional _ whenTrue whenFalse => isSensitive limit whenTrue || isSensitive limit whenFalse
    | .binary left operator right =>
      (operator == "||" || operator == "??") && (isSensitive limit left || isSensitive limit right)
    | _ => false

end

/-! ## Arguments -/

/-- The arguments of a call; a tuple that is spread stands for its elements. -/
def argumentsOf (w : Walker) (place : Place) (all : List Expression) : Walk (List Argument) := do
  let s ← Walk.scope place
  let found ← all.mapM fun e => do
    match e with
    | .spread site value =>
      let type ← Walk.aside (w.expression place none value)
      match type.meaning with
      | .tuple _ items =>
        if items.any (·.isRest) then
          return [Argument.spread (.spread site value) (Resolver.tupleElement s.strict items)]
        else return items.map fun item => Argument.given site item.type
      | type =>
        return [Argument.spread (.spread site value) ((w.resolver.iterated? s type).getD .other)]
    | e => return [Argument.code e]
  return found.flatten

/-- The type of an argument where something is asked for. -/
def argumentType (w : Walker) (place : Place) (wanted : Option SourceType) : Argument → Walk SourceType
  | .code e => w.expression place wanted e
  | .given _ type => return type
  | .spread _ element => return element

/-- Arguments walked over where no way to be called says what is asked for. If that is because nothing
is known of what is called, anything may be. -/
def walkArguments (w : Walker) (place : Place) (isKnown : Bool) (all : List Expression) : Walk Unit :=
  let wanted : Option SourceType := if isKnown then none else some .other
  all.forM fun e =>
    match e with
    | .spread _ value => discard (w.expression place none value)
    | e => discard (w.expression place wanted e)

/-- Whether a call takes as many arguments as there are. -/
def takesCount (call : CallType) (arguments : List Argument) : Bool :=
  match arguments.findIdx? Argument.isSpread with
  | some place => call.least ≤ place && (call.takesMore || place < call.most)
  | none => call.least ≤ arguments.length && (call.takesMore || arguments.length ≤ call.most)

/-! ## Type arguments -/

/-- The types that are found so far for type parameters. -/
def foundTypes (r : Resolver) (s : Scope) (call : CallType) (all : List Candidate) :
    List (Home × SourceType) :=
  call.typeFormals.filterMap fun formal =>
    (r.chosen? s call.result formal all).map fun type => (formal.home, type)

/-- What is asked for by a parameter while type parameters are being found: what a function takes is
known as far as anything is, what it gives is still open. -/
def askedWhileOpen (r : Resolver) (s : Scope) (call : CallType) (found : List (Home × SourceType))
    (type : SourceType) : SourceType :=
  let whole := found ++ (call.typeFormals.filter fun f => (found.lookup f.home).isNone).map fun f =>
    (f.home, match f.bound with
      | some bound => r.substitute s (found ++ [(f.home, .unknown)]) bound
      | none => SourceType.unknown)
  let single (one : SourceType) : SourceType :=
    match one with
    | .callable calls =>
      .callable (calls.map fun c =>
        { r.substituteCall s found c with formals := r.substituteFormals s whole c.formals })
    | one => r.substitute s found one
  match type.meaning with
  | .union members _ =>
    if members.any fun one => match one with | .callable _ => true | _ => false then
      .unionOf s.strict (members.map single)
    else r.substitute s found type
  | .callable calls => single (.callable calls)
  | _ =>
    match (r.shape s type).calls with
    | [one] => if type.isOpen then r.substitute s found type else single (.callable [one])
    | _ => r.substitute s found type

/-- Type arguments for a call, those that stand for missing ones behind the ones given. -/
def withDefaults (r : Resolver) (s : Scope) (call : CallType) (given : List SourceType) :
    List SourceType :=
  (call.typeFormals.foldl (fun (map, types, left) formal =>
    match left with
    | first :: rest => (map ++ [(formal.home, first)], types ++ [first], rest)
    | [] =>
      let type := (formal.default.map (r.substitute s map)).getD .any
      (map ++ [(formal.home, type)], types ++ [type], []))
    (([] : List (Home × SourceType)), ([] : List SourceType), given)).2.1

/-- **A call whose type parameters stand for types**, which are given or found from the arguments and
from what is asked for. -/
def inferCall (w : Walker) (place : Place) (call : CallType) (typeArguments : List SourceType)
    (arguments : List Argument) (wanted : Option SourceType) : Walk CallType := do
  if call.typeFormals.isEmpty then return call
  let r := w.resolver
  let s ← Walk.scope place
  if !typeArguments.isEmpty then
    return r.instantiate s call (withDefaults r s call typeArguments)
  let homes := call.typeFormals.map (·.home)
  let asked : List Candidate :=
    match wanted with
    | some wanted => if wanted.isAny then [] else r.findCandidates s homes true wanted call.result
    | none => []
  let places := (List.range arguments.length).zip arguments
  let isLate (argument : Argument) : Bool :=
    match argument with
    | .code e => isSensitive 32 e
    | _ => false
  let plain := places.filter fun (_, argument) => !isLate argument
  let late := places.filter fun (_, argument) => isLate argument
  let restFormal? : Option (Nat × SourceType) :=
    (call.formals.getLast?.filter fun f => f.isRest && (Resolver.sought? homes f.type).isSome).map
      fun f => (call.formals.length - 1, f.type)
  let step (all : List Candidate) (item : Nat × Argument) : Walk (List Candidate) := do
    let (number, argument) := item
    match restFormal? with
    | some (start, _) => if start ≤ number then return all
    | none => pure ()
    match call.taken? number with
    | none => return all
    | some formal =>
      let wanted := askedWhileOpen r s call (foundTypes r s call all) formal
      let type ← Walk.aside (w.argumentType place (some wanted) argument)
      return all ++ r.findCandidates s homes false type formal
  let all ← plain.foldlM step asked
  let all ← match restFormal? with
    | some (start, type) => do
      let items ← (places.drop start).mapM fun (_, argument) => do
        let given ← Walk.aside (w.argumentType place none argument)
        match argument with
        | .spread .. => return TupleType.mk none false true (.array false given)
        | _ => return TupleType.mk none false false (given.widened s.strict)
      pure (all ++ r.findCandidates s homes false (Resolver.tupleOf items) type)
    | none => pure all
  let all ← late.foldlM step all
  return r.instantiate s call (r.inferred s call all)

/-! ## The choice of a call -/

/-- How many arguments are expected by one of several ways to be called, as it is written. -/
def expectedCount (calls : List CallType) : Text :=
  let least := (calls.map CallType.least).foldl min ((calls.head?.map CallType.least).getD 0)
  let most := (calls.map CallType.most).foldl max 0
  if calls.any CallType.takesMore then "at least " ++ Text.ofNat least
  else if least < most then Text.ofNat least ++ "-" ++ Text.ofNat most
  else Text.ofNat least

/-- The report of a number of arguments that no way to be called takes: at the call if they are too
few, else at the first one that is too many. -/
def reportCount (site : Site) (calls : List CallType) (arguments : List Argument) : Walk Unit :=
  match arguments.find? Argument.isSpread with
  | some argument =>
    Walk.report argument.site
      "A spread argument must either have a tuple type or be passed to a rest parameter."
  | none =>
    let least := (calls.map CallType.least).foldl min ((calls.head?.map CallType.least).getD 0)
    let most := (calls.map CallType.most).foldl max 0
    let message := "Expected " ++ expectedCount calls ++ " arguments, but got "
      ++ Text.ofNat arguments.length ++ "."
    if arguments.length < least then Walk.report site message
    else
      match arguments[most]? with
      | some argument => Walk.report argument.site message
      | none => Walk.report site message

/-- Whether arguments fit a call, without keeping anything. -/
def accepts (w : Walker) (place : Place) (call : CallType) (arguments : List Argument) : Walk Bool :=
  Walk.aside do
    let s ← Walk.scope place
    let found ← ((List.range arguments.length).zip arguments).mapM fun (number, argument) => do
      match call.taken? number with
      | none => return true
      | some wanted =>
        let type ← w.argumentType place (some wanted) argument
        return w.resolver.isFit s type wanted
    return found.all id

/-- The arguments of a call walked over, with a report of the first one that does not fit. -/
def checkArguments (w : Walker) (place : Place) (call : CallType) (arguments : List Argument) :
    Walk Unit := do
  let _ ← ((List.range arguments.length).zip arguments).foldlM (fun isFine (number, argument) => do
    let wanted := call.taken? number
    match argument with
    | .code e =>
      let type ← w.expression place wanted e
      match wanted with
      | some wanted => if isFine then w.fitArgument place e type wanted else return false
      | none => return isFine
    | .given site type =>
      match wanted with
      | some wanted =>
        let s ← Walk.scope place
        if isFine && !w.resolver.isFit s type wanted then
          Walk.report site (w.resolver.argumentMismatch s type wanted)
          return false
        else return isFine
      | none => return isFine
    | .spread e element =>
      match e with
      | .spread _ value => let _ ← w.expression place none value
      | e => let _ ← w.expression place none e
      match wanted with
      | some wanted => if isFine then w.fitArgument place e element wanted else return false
      | none => return isFine) true

/-- The values that are spread among arguments, walked over for what they are by themselves. -/
def walkSpread (w : Walker) (place : Place) (all : List Expression) : Walk Unit := do
  let arguments ← w.argumentsOf place all
  all.forM fun e =>
    match e with
    | .spread _ value =>
      if arguments.any fun a => match a with | .given site _ => site.offset = e.site.offset | _ => false
      then discard (w.expression place none value)
      else pure ()
    | _ => pure ()

/-- **The result of a call** of something that can be called in some ways, and the way that is
chosen. -/
def resolveCall (w : Walker) (place : Place) (site : Site) (calls : List CallType)
    (typeArguments : List SourceType) (all : List Expression) (first : List Argument)
    (wanted : Option SourceType) : Walk (SourceType × Option CallType) := do
  let arguments := first ++ (← w.argumentsOf place all)
  let isCounted := calls.filter fun call => takesCount call arguments
  match isCounted with
  | [] =>
    if !calls.isEmpty then reportCount site calls arguments
    w.walkArguments place true all
    match calls with
    | [single] => return (if single.typeFormals.isEmpty then single.result else .other, none)
    | _ => return (.other, none)
  | [single] =>
    let call ← w.inferCall place single typeArguments arguments wanted
    w.walkSpread place all
    w.checkArguments place call arguments
    return (call.result, some call)
  | several =>
    let chosen ← several.foldlM (fun (chosen : Option CallType) call => do
      match chosen with
      | some _ => return chosen
      | none =>
        let call ← w.inferCall place call typeArguments arguments wanted
        if ← w.accepts place call arguments then return some call else return none) none
    w.walkSpread place all
    match chosen with
    | some call =>
      w.checkArguments place call arguments
      return (call.result, some call)
    | none =>
      Walk.report site "No overload matches this call."
      w.walkArguments place true all
      return (.other, none)

/-! ## Calls and what is made -/

/-- Whether an expression goes on only where something in front of it is there. -/
def isChain : Expression → Bool
  | .member container _ _ isOptional => isOptional || isChain container
  | .element container _ isOptional => isOptional || isChain container
  | .call callee _ _ isOptional => isOptional || isChain callee
  | .nonNull inner => isChain inner
  | _ => false

/-- Where a call is named that has too few arguments. -/
def callSite : Expression → Site
  | .member _ site _ _ => site
  | e => e.site

/-- The type that `super` stands for, as what is called or as what has the members. -/
def baseName (isCalled : Bool) : Text := if isCalled then "super()" else "super"

/-- A call that was walked over: its result, whether it may be left out because something in front of
it is not there, and the way to be called that is chosen. -/
structure Called where
  result : SourceType
  mayEnd : Bool
  chosen : Option CallType

/-- **A call walked over.** -/
def call (w : Walker) (place : Place) (wanted : Option SourceType) (callee : Expression)
    (typeTrees : List TypeTree) (all : List Expression) (isOptional : Bool) : Walk Called := do
  let r := w.resolver
  let typeArguments ← typeTrees.mapM (w.checkedType place)
  match callee with
  | .base _ =>
    let s ← Walk.scope place
    let type := (place.scope.boundType? (baseName true)).getD .other
    let (_, chosen) ← w.resolveCall place callee.site (r.constructsOf s type) typeArguments all [] none
    return ⟨.void, false, chosen⟩
  | callee =>
    let (type, mayEnd) ← w.chain place none callee
    let s ← Walk.scope place
    let mayEnd := mayEnd || (isOptional && mayBeMissing type)
    if !isOptional && s.strict && mayBeMissing type then
      Walk.report callee.site
        ("Cannot invoke an object which is possibly " ++ missingText type.alternatives ++ ".")
    let type := presentOf place type
    if type.isAny then
      w.walkArguments place (!type.isOther) all
      return ⟨type, mayEnd, none⟩
    match r.callsOf s type with
    | [] =>
      w.walkArguments place (r.shape s type).isKnown all
      return ⟨.other, mayEnd, none⟩
    | calls =>
      let (result, chosen) ← w.resolveCall place (callSite callee) calls typeArguments all [] wanted
      return ⟨result, mayEnd, chosen⟩

/-- **What is made by `new`**, walked over. -/
def construct (w : Walker) (place : Place) (wanted : Option SourceType) (site : Site)
    (callee : Expression) (typeTrees : List TypeTree) (all : List Expression) : Walk SourceType := do
  let r := w.resolver
  let typeArguments ← typeTrees.mapM (w.checkedType place)
  let type ← w.expression place none callee
  let s ← Walk.scope place
  let type := presentOf place type
  if type.isAny then
    w.walkArguments place (!type.isOther) all
    return type
  match r.constructsOf s type with
  | [] =>
    w.walkArguments place (r.shape s type).isKnown all
    return .other
  | calls =>
    let (result, _) ← w.resolveCall place site calls typeArguments all [] wanted
    return result

/-- A template handed to a function, walked over. -/
def tagged (w : Walker) (place : Place) (wanted : Option SourceType) (tag : Expression)
    (typeTrees : List TypeTree) (site : Site) (holes : List Expression) : Walk SourceType := do
  let typeArguments ← typeTrees.mapM (w.checkedType place)
  let type ← w.expression place none tag
  let s ← Walk.scope place
  match w.resolver.callsOf s (presentOf place type) with
  | [] =>
    w.walkArguments place (!type.isOther) holes
    return if type.isAny then type else .other
  | calls =>
    let texts : Argument := .given site (.standard "TemplateStringsArray" [])
    let (result, _) ← w.resolveCall place tag.site calls typeArguments holes [texts] wanted
    return result

end Walker

end Turnstile.Source
