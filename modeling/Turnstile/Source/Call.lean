import Turnstile.Source.Type.Union

/-! # What calls take

* **`CallType.places`** are the places for arguments of a way to be called; a parameter for the rest
  that is a tuple stands for several.
* **`CallType.least`** is how many arguments a call needs, **`CallType.taken?`** what it takes at a
  place. -/

namespace Turnstile.Source

/-- A place for an argument. -/
structure ArgumentPlace where
  type : SourceType
  isOptional : Bool
  /-- Whether any number of arguments can stand there. -/
  isRest : Bool

namespace CallType

/-- The places that a parameter for the rest stands for. -/
def restPlaces (type : SourceType) : List ArgumentPlace :=
  match type.meaning with
  | .array _ element => [⟨element, true, true⟩]
  | .tuple _ items => items.map fun item =>
    match item.isRest, item.type.meaning with
    | true, .array _ element => ⟨element, true, true⟩
    | true, _ => ⟨.other, true, true⟩
    | false, _ => ⟨item.type, item.isOptional, false⟩
  | _ => [⟨.other, true, true⟩]

/-- **The places for arguments.** -/
def places (call : CallType) : List ArgumentPlace :=
  call.formals.flatMap fun formal =>
    if formal.isRest then restPlaces formal.type else [⟨formal.type, formal.isOptional, false⟩]

/-- Whether an argument may be left out at a place: it is optional, or may be nothing at all. -/
def mayBeLeftOut (place : ArgumentPlace) : Bool :=
  place.isOptional || place.type.alternatives.any (·.isLike .void)

/-- **How many arguments a call needs.** -/
def least (call : CallType) : Nat := (call.places.reverse.dropWhile mayBeLeftOut).length

/-- Whether a call takes any number of arguments. -/
def takesMore (call : CallType) : Bool := call.places.any (·.isRest)

/-- How many arguments a call takes, apart from any number of further ones. -/
def most (call : CallType) : Nat := (call.places.filter fun place => !place.isRest).length

/-- **What a call takes at a place**, if it takes anything there. -/
def taken? (call : CallType) (n : Nat) : Option SourceType :=
  let places := call.places
  match places[n]? with
  | some place => some place.type
  | none => (places.getLast?.filter (·.isRest)).map (·.type)

/-- What a call takes at a place; anything, where it takes nothing. -/
def taken (call : CallType) (n : Nat) : SourceType := (call.taken? n).getD .any

end CallType

end Turnstile.Source
