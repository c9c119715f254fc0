import Turnstile.Number.Numeral
import Turnstile.Signature
import Turnstile.Value

/-! # Arguments in text

How the text of an argument becomes a value.

* **`ValueKind.read`** reads a text as a value of a kind.
* **`Signature.readArguments`** reads each text by the parameter of its position; without one it
  stays a text. -/

namespace Turnstile

/-- Why a text cannot be read as a value. -/
inductive ArgumentFault where
  | notANumber (raw : Text)
  | notAnInteger (raw : Text)
  | notABoolean (raw : Text)
  deriving DecidableEq, Repr

/-- The wording of a fault. -/
def ArgumentFault.message : ArgumentFault → Text
  | .notANumber raw => "Not a number: " ++ raw
  | .notAnInteger raw => "Not an integer: " ++ raw
  | .notABoolean raw => "Not a boolean: " ++ raw

/-- A number in text. A blank text is no number. -/
def readNumber (raw : Text) : Except ArgumentFault Number :=
  let n := Numeral.number raw
  if raw.isBlankText || n.isNaN then .error (.notANumber raw) else .ok n

/-- An integer in text. A blank text is no integer. -/
def readInteger (raw : Text) : Except ArgumentFault Int :=
  if raw.isBlankText then .error (.notAnInteger raw)
  else
    match Numeral.integer? raw with
    | some i => .ok i
    | none => .error (.notAnInteger raw)

/-- A list of numbers in text, with commas between them; a blank text is the empty list. -/
def readNumbers (raw : Text) : Except ArgumentFault (List Number) :=
  if raw.isBlankText then .ok []
  else (Text.split (Text.unit ',') raw).mapM fun part => readNumber part.trim

/-- **A text read as a value of a kind.** -/
def ValueKind.read (kind : ValueKind) (raw : Text) : Except ArgumentFault Value :=
  match kind with
  | .number => (readNumber raw).map .number
  | .integer => (readInteger raw).map .integer
  | .boolean =>
    if raw == "true" then .ok (.boolean true)
    else if raw == "false" then .ok (.boolean false)
    else .error (.notABoolean raw)
  | .numberArray => (readNumbers raw).map fun ns => .array (ns.map fun n => some (.number n))
  | .text => .ok (.text raw)
  | .void => .ok (.text raw)
  | .opaqueValue => .ok (.text raw)

namespace Signature

/-- The argument at a position read by its parameter. -/
def readArgument (s : Signature) (i : Nat) (raw : Text) : Except ArgumentFault Value :=
  match s.parameterAt? i with
  | some p => p.kind.read raw
  | none => .ok (.text raw)

/-- The arguments from a position on. -/
def readFrom (s : Signature) (i : Nat) : List Text → Except ArgumentFault (List Value)
  | [] => .ok []
  | raw :: rest => do
    let value ← s.readArgument i raw
    let values ← readFrom s (i + 1) rest
    return value :: values

/-- **The arguments of a function**, read by its parameters. -/
def readArguments (s : Signature) (raw : List Text) : Except ArgumentFault (List Value) :=
  s.readFrom 0 raw

end Signature

end Turnstile
