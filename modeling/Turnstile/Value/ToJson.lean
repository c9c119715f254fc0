import Turnstile.Json
import Turnstile.Value

/-! # Values as JSON

* **`Value.toJson`** is the JSON tree of a value. Integers of any size become texts of their
  digits. What JSON has no form for (`undefined`, functions, symbols) is `null` inside an array and
  left out of a record; numbers that are not finite are `null`. A record with a member `toJSON` that
  can be called is put in by what that makes of it, and what that throws ends it all. -/

namespace Turnstile.Value

/-- The JSON form of a number: not finite is null. -/
def numberJson : Number → Json
  | .finite negative quanta h => .number (.finite negative quanta h)
  | _ => .null

/-- The members of a vector: its indices as keys. -/
def indexedMembers (elements : List Json) : Json :=
  .object (elements.mapIdx fun i e => (Text.ofNat i, e))

/-- What comes of a value in JSON: a tree, no form, or something thrown. -/
abbrev JsonForm := Except Value (Option Json)

/-- The tree of an element: null for what has no form. -/
def JsonForm.inArray (form : JsonForm) : Except Value Json := form.map fun tree => tree.getD .null

/-- What the first of some members throws, if one of them throws. -/
def firstThrown? (forms : List (Text × JsonForm)) : Option Value :=
  forms.findSome? fun (_, form) =>
    match form with
    | .error thrown => some thrown
    | .ok _ => none

/-- The members that have a form. -/
def formed (forms : List (Text × JsonForm)) : List (Text × Json) :=
  forms.filterMap fun (key, form) => (form.toOption.join).map fun tree => (key, tree)

/-- The object of some members in reading order, which is also the order in which they are made. -/
def objectOf (forms : List (Text × JsonForm)) : JsonForm :=
  match firstThrown? (readingOrder forms) with
  | some thrown => .error thrown
  | none => .ok (some (.object (readingOrder (formed forms))))

/-- The JSON form of a value whose own `toJSON` was asked before, or is asked now. -/
def jsonForm (asked : Bool) : Value → JsonForm
  | .undefined => .ok none
  | .function _ => .ok none
  | .symbol _ => .ok none
  | .null => .ok (some .null)
  | .boolean b => .ok (some (.boolean b))
  | .number n => .ok (some (numberJson n))
  | .integer i => .ok (some (.text (Text.ofInt i)))
  | .text t => .ok (some (.text t))
  | .array elements => (elementTrees elements).map fun trees => some (.array trees)
  | .record members =>
    match if asked then none else ownForm members with
    | some form => form
    | none => objectOf (memberForms members)
  | .numberVector _ elements => .ok (some (indexedMembers (elements.map numberJson)))
  | .integerVector elements =>
    .ok (some (indexedMembers (elements.map fun i => .text (Text.ofInt i))))
  | .byteView _ => .ok (some (.object []))
  | .byteBuffer _ => .ok (some (.object []))
  | .owned _ => .ok (some (.object []))
  | .allocator _ => .ok (some (.object []))
  | .error .. => .ok (some (.object []))
  | .promise .. => .ok (some (.object []))
where
  /-- The trees of array elements; the first element that throws ends it. -/
  elementTrees : List (Option Value) → Except Value (List Json)
    | [] => .ok []
    | none :: rest => (elementTrees rest).map (.null :: ·)
    | some v :: rest =>
      match (jsonForm false v).inArray with
      | .error thrown => .error thrown
      | .ok tree => (elementTrees rest).map (tree :: ·)
  /-- The forms of record members. -/
  memberForms : List (Text × Value) → List (Text × JsonForm)
    | [] => []
    | (key, v) :: rest => (key, jsonForm false v) :: memberForms rest
  /-- What the member `toJSON` makes of a record, if there is one to call. -/
  ownForm : List (Text × Value) → Option JsonForm
    | [] => none
    | (key, v) :: rest => if key = "toJSON" then madeForm v else ownForm rest
  /-- What is made by calling a value with a text. What it returns is not asked again. -/
  madeForm : Value → Option JsonForm
    | .function none => some (.ok none)
    | .function (some (.returns, v)) => some (jsonForm true v)
    | .function (some (.throws, thrown)) => some (.error thrown)
    | .function (some _) => some (.error (typeError "argument is not a function"))
    | _ => none

/-- **The JSON tree of a value**, if JSON has a form for it and nothing is thrown on the way. -/
def toJson (v : Value) : JsonForm := v.jsonForm false

end Turnstile.Value
