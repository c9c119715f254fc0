import Turnstile.Signature
import Turnstile.Value

/-! # Admission of arguments

Before a function is called, its arguments are held against its signature.

* **`acceptsUndefined`** reads off a type's text whether `undefined` is one of its members.
* **`ValueKind.admits`** is the check of one value.
* **`Signature.admit`** refuses surplus arguments first, then the first argument that is missing or
  of the wrong kind. -/

namespace Turnstile

/-- **Whether a type lets an argument be left out**: `unknown` and `any` do, and a text that has
`undefined` between its bars. -/
def acceptsUndefined (type : Text) : Bool :=
  type == "unknown" || type == "any"
    || (Text.split (Text.unit '|') type).any fun part => part.trim == "undefined"

/-- Whether a value is a number. -/
def Value.isNumber : Value → Bool
  | .number _ => true
  | _ => false

/-- Whether every element that is there is a number. -/
def allNumbers (elements : List (Option Value)) : Bool :=
  elements.all fun element => (element.map Value.isNumber).getD true

/-- **Whether a value is of a kind.** Absent elements of an array are not looked at. -/
def ValueKind.admits : ValueKind → Value → Bool
  | .number, .number _ => true
  | .integer, .integer _ => true
  | .text, .text _ => true
  | .boolean, .boolean _ => true
  | .numberArray, .array elements => allNumbers elements
  | .numberArray, .numberVector .. => true
  | .void, _ => true
  | .opaqueValue, _ => true
  | _, _ => false

/-- Why arguments are refused. -/
inductive Refusal where
  /-- More arguments than parameters, and no rest parameter. -/
  | surplus (expected given : Nat)
  /-- No argument for a parameter that needs one. -/
  | missing (parameter : Parameter)
  /-- An argument of another kind than its parameter's. -/
  | wrongKind (parameter : Parameter) (argument : Value)

/-- The wording of a refusal by a function. -/
def Refusal.message (function : Text) : Refusal → Text
  | .surplus expected given =>
    function ++ " expects at most " ++ Text.ofNat expected ++ " argument(s), got " ++ Text.ofNat given
  | .missing p => function ++ ": missing argument '" ++ p.name ++ "'"
  | .wrongKind p argument =>
    "Argument '" ++ p.name ++ "' of " ++ function ++ " expects " ++ p.kind.word ++ ", got "
      ++ argument.described

/-- The check of one argument against its parameter. -/
def Parameter.admit (p : Parameter) : (argument : Value) → Except Refusal Unit
  | .undefined => if p.isOptional || acceptsUndefined p.type then .ok () else .error (.missing p)
  | argument => if p.kind.admits argument then .ok () else .error (.wrongKind p argument)

/-- The check of the arguments from a position on, with the parameters that are left; beyond them
every argument belongs to the rest parameter. -/
def admitFrom (rest : Option Parameter) : List Parameter → List Value → Except Refusal Unit
  | [], [] => .ok ()
  | [], argument :: arguments =>
    match rest with
    | none => .ok ()
    | some p => do
      p.admit argument
      admitFrom rest [] arguments
  | p :: parameters, [] => do
    p.admit .undefined
    admitFrom rest parameters []
  | p :: parameters, argument :: arguments => do
    p.admit argument
    admitFrom rest parameters arguments

/-- **The check of a list of arguments against a signature.** -/
def Signature.admit (s : Signature) (arguments : List Value) : Except Refusal Unit :=
  if s.rest?.isNone && s.parameters.length < arguments.length then
    .error (.surplus s.parameters.length arguments.length)
  else admitFrom s.rest? s.parameters arguments

end Turnstile
