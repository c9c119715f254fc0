import Turnstile.Text

/-! # Signatures

What a library declares about its functions.

* **`ValueKind`** is how an argument or result is checked; **`ValueKind.ofType`** reads it off the
  text of a type.
* **`Signature`** is a function's name, its parameters and its result; **`Signature.toText`** writes
  it on one line.
* **`elementType`** is the text of the type of one rest argument. -/

namespace Turnstile

/-- How a value is checked. Opaque and void values pass unchecked. -/
inductive ValueKind where
  | number
  | integer
  | text
  | boolean
  | numberArray
  | void
  | opaqueValue
  deriving DecidableEq, Repr

namespace ValueKind

/-- The word for a kind. -/
def word : ValueKind → Text
  | .number => "number"
  | .integer => "bigint"
  | .text => "string"
  | .boolean => "boolean"
  | .numberArray => "number-array"
  | .void => "void"
  | .opaqueValue => "opaque"

/-- The kinds in the order of their definition. -/
def all : List ValueKind := [.number, .integer, .text, .boolean, .numberArray, .void, .opaqueValue]

/-- The kind that a word names, if any. -/
def ofWord? (word : Text) : Option ValueKind := all.find? fun kind => kind.word == word

/-- The types whose values are checked, by their text. -/
def checkedTypes : List (Text × ValueKind) :=
  [("number", .number), ("bigint", .integer), ("string", .text), ("boolean", .boolean),
   ("void", .void), ("undefined", .void), ("number[]", .numberArray),
   ("readonly number[]", .numberArray), ("ArrayLike<number>", .numberArray),
   ("Int32Array", .numberArray), ("Int32Array<ArrayBufferLike>", .numberArray)]

/-- **The kind of a type**, from its text; every other type is opaque. -/
def ofType (type : Text) : ValueKind := (checkedTypes.lookup type).getD .opaqueValue

end ValueKind

/-- The text of a rest parameter's element type: without `readonly` in front and without the
brackets at the end. -/
def elementType (type : Text) : Text :=
  let bare := (Text.dropStart? "readonly " type).getD type
  if bare.endsWith "[]" then bare.take (bare.length - 2) else bare

/-- A **parameter**. The kind of a rest parameter is that of one of its arguments. -/
structure Parameter where
  name : Text
  type : Text
  kind : ValueKind
  isOptional : Bool
  isRest : Bool
  deriving DecidableEq, Repr

/-- A **function signature**. -/
structure Signature where
  name : Text
  parameters : List Parameter
  resultType : Text
  resultKind : ValueKind
  deriving DecidableEq, Repr

/-- A parameter in a line: dots in front of a rest parameter, a question mark behind the name of an
optional one. -/
def Parameter.toText (p : Parameter) : Text :=
  (if p.isRest then "..." else "") ++ p.name ++ (if p.isOptional && !p.isRest then "?" else "") ++ ": "
    ++ p.type

namespace Signature

/-- **A signature on one line.** -/
def toText (s : Signature) : Text :=
  s.name ++ "(" ++ Text.join ", " (s.parameters.map Parameter.toText) ++ "): " ++ s.resultType

/-- The rest parameter, which can only be the last one. -/
def rest? (s : Signature) : Option Parameter :=
  match s.parameters.getLast? with
  | some p => if p.isRest then some p else none
  | none => none

/-- The parameter that the argument at a position belongs to: the one in its place, or the rest
parameter beyond the end. -/
def parameterAt? (s : Signature) (i : Nat) : Option Parameter :=
  match s.parameters[i]? with
  | some p => some p
  | none => s.rest?

end Signature

end Turnstile
