import Turnstile.Number.Shortest

/-! # Values

The values that routines take and return.

* **`Value`** is the type of all of them. Array elements may be absent, record members keep their
  insertion order, and owned strings and allocators are references into a memory.
* **`Value.lookup`** and **`Value.element`** are property reads: what is not there reads as
  `undefined`.
* **`Value.interpolated`** is the text of a value inside a message, **`Value.complaint`** what a
  thrown value says. Not every value has a text: where one is asked for nevertheless, another value
  is thrown.
* **`Value.settle`** waits for a promise, and for a record that can hand on a value. The wait may
  never end. -/

namespace Turnstile

/-- The element formats of number vectors. -/
inductive ElementFormat where
  | int8
  | uint8
  | uint8Clamped
  | int16
  | uint16
  | int32
  | uint32
  | float32
  | float64
  deriving DecidableEq, Repr

/-- A reference to an owned string of a memory. -/
@[ext] structure StringId where
  index : Nat
  deriving DecidableEq, Repr

/-- A reference to an allocator of a memory. -/
@[ext] structure AllocatorId where
  index : Nat
  deriving DecidableEq, Repr

/-- What a function does with a value of its own when it is called. -/
inductive Conduct where
  | returns
  | throws
  /-- It passes the value to its first argument. -/
  | handsOn
  /-- It passes the value to its second argument. -/
  | rejects
  deriving DecidableEq, Repr

/-- The **message** of an error, which nothing keeps from being no text. -/
inductive Message (Thrown : Type) where
  | text (t : Text)
  /-- A message without a text, and what is thrown where one is asked for. -/
  | without (thrown : Thrown)

instance (Thrown : Type) : Coe Text (Message Thrown) := ⟨.text⟩

/-- Where only a text will do, a message without one is blank. -/
instance (Thrown : Type) : CoeOut (Message Thrown) Text := ⟨fun
  | .text t => t
  | .without _ => []⟩

/-- A **value**. A member of a record that throws as soon as it is read is taken for a function that
throws when it is called, and a place that leads back to a value around it for a record that throws
where JSON is made of it: no more can be told of them from what is done with results. -/
inductive Value where
  | undefined
  | null
  | boolean (b : Bool)
  | number (n : Number)
  | integer (i : Int)
  | text (t : Text)
  | symbol (description : Text)
  /-- A function, and what it does when it is called; without a value of its own it returns
  `undefined`. -/
  | function (conduct : Option (Conduct × Value))
  /-- An array; `none` is an absent element. -/
  | array (elements : List (Option Value))
  /-- A record with its members in insertion order, no key twice. -/
  | record (members : List (Text × Value))
  /-- A vector of numbers in one format. -/
  | numberVector (format : ElementFormat) (elements : List Number)
  /-- A vector of 64-bit integers. -/
  | integerVector (elements : List Int)
  /-- An untyped view of bytes. -/
  | byteView (bytes : List UInt8)
  /-- A buffer of bytes. -/
  | byteBuffer (bytes : List UInt8)
  | owned (id : StringId)
  | allocator (id : AllocatorId)
  /-- An error with its kind, its message and what caused it. -/
  | error (name : Text) (message : Message Value) (cause : Option Value)
  /-- A promise and how it settles: the value it resolves to, or is rejected with. One that never
  settles is a record whose member `then` returns without handing on anything. -/
  | promise (rejected : Bool) (settled : Value)

instance : Inhabited Value := ⟨.undefined⟩

/-- How a computation ends: with a value returned, or with a value thrown. -/
abbrev Completion := Except Value Value

namespace Value

/-! ## Records -/

/-- The members with one more: a key that is there keeps its place and takes the value. -/
def insertMember (key : Text) (value : Value) : List (Text × Value) → List (Text × Value)
  | [] => [(key, value)]
  | (k, v) :: rest =>
    if k = key then (k, value) :: rest else (k, v) :: insertMember key value rest

/-- The record whose members are set in the given order. -/
def recordOf (members : List (Text × Value)) : Value :=
  .record (members.foldl (fun done (key, value) => insertMember key value done) [])

/-- The array index that a key writes in canonical form, below `2 ^ 32 - 1`. -/
def arrayIndex? (key : Text) : Option Nat :=
  match Text.nat? 10 key with
  | some n => if n < 4294967295 && Text.ofNat n == key then some n else none
  | none => none

/-- Insert an indexed item into a list in ascending order of the index. -/
def insertIndexed {α : Type} (n : Nat) (item : α) : List (Nat × α) → List (Nat × α)
  | [] => [(n, item)]
  | (m, other) :: rest =>
    if n < m then (n, item) :: (m, other) :: rest else (m, other) :: insertIndexed n item rest

/-- **Reading order** of keyed items: array indices ascending, then the other keys as they came. -/
def readingOrder {α : Type} (items : List (Text × α)) : List (Text × α) :=
  let indexed := items.foldr (fun item done =>
    match arrayIndex? item.1 with
    | some n => insertIndexed n item done
    | none => done) []
  indexed.map (·.2) ++ items.filter fun item => (arrayIndex? item.1).isNone

/-! ## Property reads -/

/-- The member of a record under a key; `undefined` when there is none. -/
def lookup (key : Text) (members : List (Text × Value)) : Value :=
  (members.lookup key).getD .undefined

/-- The `length` of a value. -/
def length : Value → Value
  | .text t => .number (.ofNat t.length)
  | .array elements => .number (.ofNat elements.length)
  | .numberVector _ elements => .number (.ofNat elements.length)
  | .integerVector elements => .number (.ofNat elements.length)
  | .record members => lookup "length" members
  | _ => .undefined

/-- The element of a value at an index. -/
def element (v : Value) (i : Nat) : Value :=
  match v with
  | .text t => (t[i]?.map fun u => .text [u]).getD .undefined
  | .array elements => ((elements[i]?).getD none).getD .undefined
  | .numberVector _ elements => (elements[i]?.map .number).getD .undefined
  | .integerVector elements => (elements[i]?.map .integer).getD .undefined
  | .record members => lookup (Text.ofNat i) members
  | _ => .undefined

/-! ## Words for values -/

/-- The word for the type of a value. -/
def typeWord : Value → Text
  | .undefined => "undefined"
  | .boolean _ => "boolean"
  | .number _ => "number"
  | .integer _ => "bigint"
  | .text _ => "string"
  | .symbol _ => "symbol"
  | .function _ => "function"
  | _ => "object"

/-- The type word, with words of their own for null and for arrays. -/
def described : Value → Text
  | .null => "null"
  | .array _ => "array"
  | v => v.typeWord

/-- Whether a value counts as absent where a condition is asked: the blank text, the zeros, `nan`,
`false`, `null` and `undefined`. -/
def isFalsy : Value → Bool
  | .undefined => true
  | .null => true
  | .boolean b => !b
  | .number n => n.isNaN || n.toInt? == some 0
  | .integer i => i == 0
  | .text t => t.isEmpty
  | _ => false

/-! ## Texts for values -/

/-- The error for a value of which no text, or no other plain value, can be made. -/
def typeError (message : Text) : Value := .error "TypeError" message none

/-- The text of a message, or what is thrown instead. -/
def shownMessage : Message Value → Except Value Text
  | .text t => .ok t
  | .without thrown => .error thrown

/-- Whether a value has an identity of its own, and no text but the one that it makes. -/
def isObject : Value → Bool
  | .undefined | .null | .boolean _ | .number _ | .integer _ | .text _ | .symbol _ => false
  | _ => true

/-- **The text of a value inside a message.** Array elements are joined with commas, absent and null
ones being blank. A record may have a text of its own; a symbol has none. A function has a word in
place of its code, which values do not hold. -/
def interpolated : Value → Except Value Text
  | .undefined => .ok "undefined"
  | .null => .ok "null"
  | .boolean b => .ok (if b then "true" else "false")
  | .number n => .ok n.toText
  | .integer i => .ok (Text.ofInt i)
  | .text t => .ok t
  | .symbol _ => .error (typeError "Cannot convert a Symbol value to a string")
  | .function _ => .ok "function"
  | .array elements => (elementTexts elements).map (Text.join ",")
  | .numberVector _ elements => .ok (Text.join "," (elements.map Number.toText))
  | .integerVector elements => .ok (Text.join "," (elements.map Text.ofInt))
  | .byteView _ => .ok "[object DataView]"
  | .byteBuffer _ => .ok "[object ArrayBuffer]"
  | .error name message _ =>
    (shownMessage message).map fun t =>
      if name.isEmpty then t else if t.isEmpty then name else name ++ ": " ++ t
  | .promise .. => .ok "[object Promise]"
  | .record members =>
    match ownText "toString" members with
    | none => .ok "[object Object]"
    | some (.error thrown) => .error thrown
    | some (.ok (some t)) => .ok t
    | some (.ok none) =>
      -- Without an own `valueOf`, a record stands for itself, which is no text either.
      match ownText "valueOf" members with
      | some (.error thrown) => .error thrown
      | some (.ok (some t)) => .ok t
      | _ => .error (typeError "Cannot convert object to primitive value")
  | .owned _ => .ok "[object Object]"
  | .allocator _ => .ok "[object Object]"
where
  /-- The texts of the elements of an array; the first element without a text throws. -/
  elementTexts : List (Option Value) → Except Value (List Text)
    | [] => .ok []
    | none :: rest => (elementTexts rest).map ([] :: ·)
    | some .undefined :: rest => (elementTexts rest).map ([] :: ·)
    | some .null :: rest => (elementTexts rest).map ([] :: ·)
    | some v :: rest =>
      match interpolated v with
      | .error thrown => .error thrown
      | .ok t => (elementTexts rest).map (t :: ·)
  /-- The text that the member under a key makes, if there is such a member. -/
  ownText (key : Text) : List (Text × Value) → Option (Except Value (Option Text))
    | [] => none
    | (k, v) :: rest => if k = key then some (madeText v) else ownText key rest
  /-- The text that is made by calling a value without arguments. There is none if it cannot be
  called, and none if it returns an object. -/
  madeText : Value → Except Value (Option Text)
    | .function none => .ok (some "undefined")
    | .function (some (.returns, v)) => if v.isObject then .ok none else (interpolated v).map some
    | .function (some (.throws, thrown)) => .error thrown
    | .function (some _) => .error (typeError "argument is not a function")
    | _ => .ok none

/-- The text that is made of a value by itself: a symbol shows what it describes. -/
def spelled : Value → Except Value Text
  | .symbol description => .ok ("Symbol(" ++ description ++ ")")
  | v => v.interpolated

/-- **What a thrown value says**: the message of an error, the text of anything else. Where there is
no text, asking for it throws another value. -/
def complaint : Value → Except Value Text
  | .error _ message _ => shownMessage message
  | v => v.spelled

/-- The error that is thrown with a message. If a value in the message has no text, what that throws
comes first. -/
def raised (name : Text) (message : Except Value Text) (cause : Option Value) : Value :=
  match message with
  | .ok t => .error name t cause
  | .error thrown => thrown

/-- The kind that a thrown value is reported as. -/
def kind : Value → Text
  | .error name _ _ => name
  | _ => "thrown"

/-- The words that are left of a thrown value where something has to be shown. -/
def words : Value → Text
  | .error _ message _ => message
  | v => v.spelled.toOption.getD []

/-! ## Waiting -/

/-- **How a value settles** that is waited for: a promise as it settles, a record with a member `then`
that can be called as that hands on or rejects a value, anything else as itself. A value that is
handed on is waited for in its turn. The wait never ends if nothing is handed on. -/
def settle : Value → Option Completion
  | .promise true thrown => some (.error thrown)
  | .promise false v => settle v
  | .record members =>
    match handed members with
    | some settled => settled
    | none => some (.ok (.record members))
  | v => some (.ok v)
where
  /-- What comes of the member `then`, if there is one to call. -/
  handed : List (Text × Value) → Option (Option Completion)
    | [] => none
    | (key, v) :: rest => if key = "then" then called v else handed rest
  /-- What comes of calling a value with two functions, one for a value to go on with and one for
  what went wrong. -/
  called : Value → Option (Option Completion)
    | .function (some (.handsOn, v)) => some (settle v)
    | .function (some (.rejects, thrown)) => some (some (.error thrown))
    | .function (some (.throws, thrown)) => some (some (.error thrown))
    | .function _ => some none
    | _ => none

/-- How a computation ends once its result is waited for, if the wait ends. -/
def settleEnding : Completion → Option Completion
  | .ok v => v.settle
  | .error thrown => some (.error thrown)

end Value

end Turnstile
