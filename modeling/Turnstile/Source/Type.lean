import Turnstile.Source.Tree

/-! # Types

What types are, once their names are resolved, and how they are written.

* **`SourceType`** is a type; **`CallType`** is one way in which something can be called. A type with
  a name of its own is known by its **`Home`**, the place where it is declared.
* **`SourceType.toText`** writes a type, in full. How tightly a type holds together
  (`SourceType.tightness`) decides where it is written in parentheses.
* **`SourceType.key`** is a text that types share if they are the same type: it looks through the
  names of aliases, and tells names from different homes apart. -/

namespace Turnstile.Source

/-- **Where something is declared**: a source by its path, and the offset there. What is always there
has no path. -/
structure Home where
  path : Text
  offset : Nat
  deriving DecidableEq, Inhabited

/-- The home of what is always there. -/
def Home.always : Home := ⟨[], 0⟩

mutual

/-- A **type**. -/
inductive SourceType where
  | any
  | unknown
  | never
  | void
  | undefined
  | null
  | string
  | number
  | integer
  | boolean
  | symbol
  | object
  /-- A single value. A fresh one comes from an expression and widens to its base type where it is
  kept in a variable. -/
  | literal (value : Literal) (isFresh : Bool)
  | array (isReadonly : Bool) (element : SourceType)
  | tuple (isReadonly : Bool) (items : List TupleType)
  /-- What can be called, in one or several ways. -/
  | callable (calls : List CallType)
  | constructable (isAbstract : Bool) (call : CallType)
  | record (members : List MemberType)
  /-- A union: its members, and the types by which it is written. -/
  | union (members shown : List SourceType)
  | intersection (members : List SourceType)
  /-- An interface or the instances of a class, with type arguments. -/
  | named (home : Home) (name : Text) (arguments : List SourceType)
  /-- An enumeration with its members and their values, as far as these are known. -/
  | enumeration (home : Home) (name : Text) (members : List (Text × Option Literal))
  /-- A member of an enumeration, with its own value and those of all members. -/
  | enumMember (home : Home) (whole name : Text) (value : Option Literal) (isFresh : Bool)
      (all : List (Text × Option Literal))
  /-- A type parameter with its bound. -/
  | parameter (home : Home) (name : Text) (bound : Option SourceType)
  /-- A type that goes by the name of an alias. -/
  | alias (home : Home) (name : Text) (arguments : List SourceType) (meaning : SourceType)
  /-- A name that nothing declares; whatever is done with it is allowed. -/
  | unresolved (name : Text) (arguments : List SourceType)
  /-- The type of a class, an enumeration or a namespace as a value. -/
  | valueOf (home : Home) (name : Text)
  /-- The type of a module as a value. -/
  | moduleValue (path : Text)
  | keysOf (type : SourceType)
  | indexed (object index : SourceType)
  /-- A type that is known once some type parameters are: how it is written, and what is written for
  it in a source, where some names stand for types. -/
  | deferred (text path : Text) (tree : TypeTree) (bound : List BoundType)
  | other

/-- A name that stands for a type. -/
structure BoundType where
  name : Text
  type : SourceType

/-- An element of a tuple. -/
structure TupleType where
  label : Option Text
  isOptional : Bool
  isRest : Bool
  type : SourceType

/-- A parameter. `type` is what may be given for it, `declared` what is written for it. -/
structure FormalType where
  name : Text
  isOptional : Bool
  isRest : Bool
  type : SourceType
  declared : SourceType
  /-- Whether something stands for an argument that is missing. -/
  hasDefault : Bool

/-- A type parameter of a way to be called. -/
structure TypeFormalType where
  home : Home
  name : Text
  isConstant : Bool
  bound : Option SourceType
  default : Option SourceType

/-- What a result says about a parameter: that it is of a type, or that it counts as true. With
`asserted` the call returns only if that holds. -/
structure PredicateType where
  asserted : Bool
  subject : Text
  type : Option SourceType

/-- A **way to be called**: type parameters, the type of the receiver if one is asked for,
parameters and a result. A synthetic one was put together from several, so its parameters are nowhere
written down. -/
structure CallType where
  typeFormals : List TypeFormalType
  receiver : Option SourceType
  formals : List FormalType
  result : SourceType
  predicate : Option PredicateType
  isSynthetic : Bool

/-- A member of a record. -/
inductive MemberType where
  | property (name : Text) (isOptional isReadonly : Bool) (type : SourceType)
  | method (name : Text) (isOptional : Bool) (call : CallType)
  | call (call : CallType)
  | construct (call : CallType)
  | index (name : Text) (isReadonly : Bool) (key type : SourceType)

end

instance : Inhabited SourceType := ⟨.any⟩

/-- A type that is always there. -/
def SourceType.standard (name : Text) (arguments : List SourceType) : SourceType :=
  .named .always name arguments

/-- A call that takes anything and has the given result. -/
def CallType.giving (result : SourceType) : CallType :=
  ⟨[], none, [⟨"values", true, true, .other, .other, false⟩], result, none, false⟩

/-! ## Writing -/

/-- The escape of a unit between double quotes, if it has one. -/
def quotedUnit (u : UInt16) : Text :=
  if u = 0x22 then "\\\"" else if u = 0x5C then "\\\\" else if u = 0x8 then "\\b"
  else if u = 0x9 then "\\t" else if u = 0xB then "\\v" else if u = 0xC then "\\f"
  else if u = 0xA then "\\n" else if u = 0xD then "\\r" else if u = 0 then "\\0"
  else if u < 0x20 || u = 0x2028 || u = 0x2029 || u = 0x85 then
    "\\u" ++ (Text.hex4 u).map fun d => if 0x61 ≤ d then d - 0x20 else d
  else [u]

/-- A literal as it is written. -/
def Literal.toText : Literal → Text
  | .text value => "\"" ++ value.flatMap quotedUnit ++ "\""
  | .number value => value.toText
  | .integer value => Text.ofInt value ++ "n"
  | .boolean value => if value then "true" else "false"

/-- Whether a text can stand as a name. -/
def isName : Text → Bool
  | [] => false
  | u :: rest => isNameStart u && rest.all isNamePart

/-- The name of a member, quoted unless it is a name, a numeral or one in brackets. -/
def memberText (name : Text) : Text :=
  if isName name || (!name.isEmpty && name.all Text.isDigit) || name.startsWith "[" then name
  else Literal.toText (.text name)

/-- Whether a text comes before another one, unit by unit. -/
def comesBefore : Text → Text → Bool
  | _, [] => false
  | [], _ :: _ => true
  | u :: a, v :: b => u < v || (u = v && comesBefore a b)

/-- Insert a text by its order. -/
def insertText (text : Text) : List Text → List Text
  | [] => [text]
  | first :: rest =>
    if comesBefore text first then text :: first :: rest else first :: insertText text rest

/-- Texts in their order. -/
def sortTexts (texts : List Text) : List Text := texts.foldr insertText []

/-- A home as a text. -/
def Home.toText (home : Home) : Text := "@" ++ home.path ++ ":" ++ Text.ofNat home.offset

namespace SourceType

/-- A type without the name of its alias. -/
def meaning : SourceType → SourceType
  | .alias _ _ _ type => type.meaning
  | type => type

/-- How tightly the text of a type holds together: an arrow least, then unions and intersections,
then operators, then all that ends by itself. -/
def tightness : SourceType → Nat
  | .callable [_] => 0
  | .constructable .. => 0
  | .deferred .. => 0
  | .union .. => 1
  | .intersection _ => 2
  | .array true _ => 3
  | .tuple true _ => 3
  | .keysOf _ => 3
  | .valueOf .. => 3
  | .moduleValue _ => 3
  | _ => 4

/-- How tightly the text of a type holds together; with `exact`, that of its meaning. -/
def tightnessIn (exact : Bool) (type : SourceType) : Nat :=
  if exact then type.meaning.tightness else type.tightness

/-- A text in parentheses if it holds together less tightly than its place asks for. -/
def enclose (needed tightness : Nat) (text : Text) : Text :=
  if tightness < needed then "(" ++ text ++ ")" else text

/-- Texts in angle brackets, if there are any. -/
def bracketed (texts : List Text) : Text :=
  if texts.isEmpty then [] else "<" ++ Text.join ", " texts ++ ">"

mutual

/-- A type as it is written; with `exact`, as a text that only the same type shares. It is written in
full, however long it gets, where a compiler that is not asked to cuts a type at 320 units. -/
def textOf (exact : Bool) : SourceType → Text
  | .any => "any"
  | .unknown => "unknown"
  | .never => "never"
  | .void => "void"
  | .undefined => "undefined"
  | .null => "null"
  | .string => "string"
  | .number => "number"
  | .integer => "bigint"
  | .boolean => "boolean"
  | .symbol => "symbol"
  | .object => "object"
  | .literal value _ => value.toText
  | .array isReadonly element =>
    (if isReadonly then "readonly " else "")
      ++ enclose 4 (element.tightnessIn exact) (textOf exact element) ++ "[]"
  | .tuple isReadonly items =>
    (if isReadonly then "readonly " else "") ++ "[" ++ Text.join ", " (tupleTexts exact items) ++ "]"
  | .callable [call] => callText exact " => " call
  | .callable calls => "\x7b " ++ Text.join " " (callTexts exact calls) ++ " \x7d"
  | .constructable isAbstract call =>
    (if isAbstract then "abstract " else "") ++ "new " ++ callText exact " => " call
  | .record [] => "\x7b\x7d"
  | .record members => "\x7b " ++ Text.join " " (memberTexts exact members) ++ " \x7d"
  | .union members shown =>
    if exact then Text.join " | " (sortTexts (textsOf exact 3 members))
    else Text.join " | " (textsOf exact 3 shown)
  | .intersection members =>
    if exact then Text.join " & " (sortTexts (textsOf exact 3 members))
    else Text.join " & " (textsOf exact 3 members)
  | .named home name arguments =>
    name ++ (if exact then home.toText else []) ++ bracketed (textsOf exact 0 arguments)
  | .enumeration home name _ => name ++ (if exact then home.toText else [])
  | .enumMember home whole name _ _ all =>
    if all.length = 1 then whole ++ (if exact then home.toText else [])
    else whole ++ (if exact then home.toText else []) ++ "." ++ name
  | .parameter home name _ => name ++ (if exact then home.toText else [])
  | .alias _ name arguments meaning =>
    if exact then textOf exact meaning else name ++ bracketed (textsOf exact 0 arguments)
  | .unresolved name arguments => name ++ bracketed (textsOf exact 0 arguments)
  | .valueOf home name => "typeof " ++ name ++ (if exact then home.toText else [])
  | .moduleValue path => "typeof import(\"" ++ path ++ "\")"
  | .keysOf type => "keyof " ++ enclose 3 (type.tightnessIn exact) (textOf exact type)
  | .indexed container key =>
    enclose 4 (container.tightnessIn exact) (textOf exact container) ++ "[" ++ textOf exact key ++ "]"
  | .deferred text _ _ bound =>
    if exact then text ++ bracketed (boundTexts exact bound) else text
  | .other => "any"

/-- Types as they are written at places that ask for some tightness. -/
def textsOf (exact : Bool) (needed : Nat) : List SourceType → List Text
  | [] => []
  | type :: rest =>
    enclose needed (type.tightnessIn exact) (textOf exact type) :: textsOf exact needed rest

/-- The types that names stand for. -/
def boundTexts (exact : Bool) : List BoundType → List Text
  | [] => []
  | ⟨_, type⟩ :: rest => textOf exact type :: boundTexts exact rest

/-- The elements of a tuple as they are written. -/
def tupleTexts (exact : Bool) : List TupleType → List Text
  | [] => []
  | ⟨some label, isOptional, isRest, type⟩ :: rest =>
    ((if isRest then "..." else "") ++ label ++ (if isOptional then "?" else "") ++ ": "
      ++ textOf exact type) :: tupleTexts exact rest
  | ⟨none, _, true, type⟩ :: rest =>
    ("..." ++ enclose 4 (type.tightnessIn exact) (textOf exact type)) :: tupleTexts exact rest
  | ⟨none, true, false, type⟩ :: rest =>
    (enclose 4 (type.tightnessIn exact) (textOf exact type) ++ "?") :: tupleTexts exact rest
  | ⟨none, false, false, type⟩ :: rest => textOf exact type :: tupleTexts exact rest

/-- Parameters as they are written inside a type. -/
def formalTexts (exact : Bool) : List FormalType → List Text
  | [] => []
  | ⟨name, isOptional, isRest, type, declared, hasDefault⟩ :: rest =>
    ((if isRest then "..." else "") ++ name ++ (if isOptional && !isRest then "?" else "") ++ ": "
      ++ (if hasDefault then textOf exact declared else textOf exact type)) :: formalTexts exact rest

/-- The type of the receiver as it is written in front of the parameters. -/
def receiverTexts (exact : Bool) : Option SourceType → List Text
  | none => []
  | some type => [("this: " : Text) ++ textOf exact type]

/-- A type behind some words, if there is one. -/
def behindText (exact : Bool) (words : Text) : Option SourceType → Text
  | none => []
  | some type => words ++ textOf exact type

/-- Type parameters as they are written. -/
def typeFormalTexts (exact : Bool) : List TypeFormalType → List Text
  | [] => []
  | ⟨_, name, isConstant, bound, default⟩ :: rest =>
    ((if isConstant then "const " else "") ++ name ++ behindText exact " extends " bound
      ++ behindText exact " = " default) :: typeFormalTexts exact rest

/-- What a result says about a parameter, as it is written. -/
def predicateText (exact : Bool) : Option PredicateType → Option Text
  | none => none
  | some ⟨asserted, subject, type⟩ =>
    some ((if asserted then "asserts " else "") ++ subject ++ behindText exact " is " type)

/-- A way to be called, with what stands in front of its result. -/
def callText (exact : Bool) (arrow : Text) : CallType → Text
  | ⟨typeFormals, receiver, formals, result, predicate, _⟩ =>
    bracketed (typeFormalTexts exact typeFormals)
      ++ "(" ++ Text.join ", " (receiverTexts exact receiver ++ formalTexts exact formals) ++ ")"
      ++ arrow ++ (predicateText exact predicate).getD (textOf exact result)

/-- Ways to be called as members of a record. -/
def callTexts (exact : Bool) : List CallType → List Text
  | [] => []
  | call :: rest => (callText exact ": " call ++ ";") :: callTexts exact rest

/-- The members of a record as they are written. -/
def memberTexts (exact : Bool) : List MemberType → List Text
  | [] => []
  | .property name isOptional isReadonly type :: rest =>
    ((if isReadonly then "readonly " else "") ++ memberText name ++ (if isOptional then "?" else "")
      ++ ": " ++ textOf exact type ++ ";") :: memberTexts exact rest
  | .method name isOptional call :: rest =>
    (memberText name ++ (if isOptional then "?" else "") ++ callText exact ": " call ++ ";")
      :: memberTexts exact rest
  | .call call :: rest => (callText exact ": " call ++ ";") :: memberTexts exact rest
  | .construct call :: rest => ("new " ++ callText exact ": " call ++ ";") :: memberTexts exact rest
  | .index name isReadonly key type :: rest =>
    ((if isReadonly then "readonly " else "") ++ "[" ++ name ++ ": " ++ textOf exact key ++ "]: "
      ++ textOf exact type ++ ";") :: memberTexts exact rest

end

/-- **A type as it is written.** -/
def toText (type : SourceType) : Text := textOf false type

/-- A text that only the same type has. -/
def key (type : SourceType) : Text := textOf true type

/-- Whether two types are the same type. -/
def isLike (a b : SourceType) : Bool := a.key == b.key

end SourceType

end Turnstile.Source
