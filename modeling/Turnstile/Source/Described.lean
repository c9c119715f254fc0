import Turnstile.Signature
import Turnstile.Source.Type.Order
import Turnstile.Source.Walker

/-! # Signatures of what a source hands out

* **`Program.signatures`** describes every name that a source hands out and that stands for a
  function, or for a variable that can be called, by the first way in which it can be called.
* **`CallType.describe`** is the signature of one way to be called. -/

namespace Turnstile.Source

/-- The name of a parameter at a place. One that takes its argument apart goes by its place. -/
def FormalType.nameAt (place : Nat) (formal : FormalType) : Text :=
  if formal.name.startsWith "\x7b" || formal.name.startsWith "[" then "__" ++ Text.ofNat place
  else formal.name

/-- The types that came up so far, by their keys. -/
abbrev Describing := StateM (List Text)

/-- A type as it is written where it comes up. -/
def SourceType.spelled (type : SourceType) : Describing Text := fun order =>
  let order := order ++ type.comingUp
  ((type.arranged order).toText, order)

/-- A parameter described. What was put together from several has no type of its own. -/
def FormalType.describe (isSynthetic : Bool) (place : Nat) (formal : FormalType) :
    Describing Parameter := do
  if isSynthetic then return ⟨formal.name, "unknown", .opaqueValue, true, false⟩
  else
    let type ← formal.declared.spelled
    return {
      name := formal.nameAt place
      type
      kind := .ofType (if formal.isRest then elementType type else type)
      isOptional := formal.isRest || formal.isOptional
      isRest := formal.isRest }

/-- **A way to be called described** under a name. -/
def CallType.describe (name : Text) (call : CallType) : Describing Signature := do
  let parameters ← ((List.range call.formals.length).zip call.formals).mapM fun (place, formal) =>
    formal.describe call.isSynthetic place
  let result ← call.result.spelled
  return { name, parameters, resultType := result, resultKind := .ofType result }

namespace Program

/-- Whether a declaration is that of a function or of a variable. -/
def isCallable : Declaration → Bool
  | .function _ => true
  | .variable .. => true
  | _ => false

/-- **The first way to call** what a name stands for, where it is declared as a function or a variable
and can be called. -/
def call? (p : Program) (walked : Walked) : Entity → Option CallType
  | .declared path spaces name =>
    let scope := { Scope.ofSource p path with values := walked.values }.inside path spaces
    let declarations := p.declarationsIn path spaces name
    let r := walked.walker.resolver
    if declarations.any isCallable then
      (r.callsOf scope (r.found scope (.declared scope name declarations))).head?
    else none
  | _ => none

/-- The signature of what a name stands for, if it can be called. -/
def signature? (p : Program) (walked : Walked) (path name : Text) : Describing (Option Signature) :=
  match p.call? walked (p.exported path name) with
  | some call => some <$> call.describe name
  | none => return none

/-- **The signatures of what the source at a path hands out**; none if the path is not a source of
the program. -/
def signatures (p : Program) (path : Text) : Option (List Signature) :=
  (p.source? path).map fun _ =>
    let walked := p.walked
    (((p.exportedNames path).mapM (p.signature? walked path)).run []).1.filterMap id

end Program

/-- The wording for a path that is not a source of the program. -/
def notInProgram (path : Text) : Text := "Library source not found in program: " ++ path

end Turnstile.Source
