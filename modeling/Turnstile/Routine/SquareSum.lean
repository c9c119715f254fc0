import Turnstile.Number.Numeral
import Turnstile.Routine

/-! # Sum of squares

* **`SquareSum.sum`** adds the squares of the first elements of an array-like value, exactly. The
  number of elements must be an integer from zero to the value's length, and each element a 32-bit
  signed integer; the first one that is not ends the sum. -/

namespace Turnstile.SquareSum

/-- Why there is no sum. -/
inductive Fault where
  /-- The number of elements asked for is no integer from zero to the length that is there. -/
  | invalidLength (available asked : Value)
  /-- The element at an index is no 32-bit signed integer. -/
  | notInt32 (index : Nat) (element : Value)

/-- The wording of a fault, if its values have texts. -/
def Fault.message : Fault → Except Value Text
  | .invalidLength available asked => do
    return "length must be an integer in [0, " ++ (← available.interpolated) ++ "], got "
      ++ (← asked.interpolated)
  | .notInt32 index element => do
    return "values[" ++ Text.ofNat index ++ "] is not a 32-bit signed integer: "
      ++ (← element.interpolated)

/-- The error value of a fault. -/
def Fault.toValue (fault : Fault) : Value := .raised "RangeError" fault.message none

/-- The 32-bit signed integer that a value is, if it is one. -/
def int32? : Value → Option Int
  | .number n =>
    match n.toInt? with
    | some i => if -2147483648 ≤ i && i < 2147483648 then some i else none
    | none => none
  | _ => none

/-- The number that a value counts as where it is compared with a number. What has no text, and so
no number, is below every number: what is asked for is then too much, and that cannot be worded. -/
def comparable : Value → Number
  | .null => .zero false
  | .boolean b => if b then 1 else 0
  | .number n => n
  | .text t => Numeral.number t
  | .symbol _ => .infinity true
  | .array elements =>
    match (Value.array elements).interpolated with
    | .ok t => Numeral.number t
    | .error _ => .infinity true
  | _ => .nan

/-- Whether a count is more than a length. -/
def moreThan (count : Number) : (available : Value) → Bool
  | .integer i =>
    match count.place? with
    | some place => decide (i * (Number.one : Nat) < place)
    | none => false
  | v => (comparable v).lt count

/-- The number of elements to add, if the one asked for is an integer in range. -/
def count? (available asked : Value) : Option Nat :=
  match asked with
  | .number n =>
    match n.toInt? with
    | some i => if i < 0 || moreThan n available then none else some i.toNat
    | none => none
  | _ => none

/-- The sum of the squares of `count` elements from an index on, added to what was summed before. -/
def sumFrom (values : Value) (sum : Nat) (index : Nat) : (count : Nat) → Except Fault Nat
  | 0 => .ok sum
  | count + 1 =>
    match int32? (values.element index) with
    | none => .error (.notInt32 index (values.element index))
    | some i => sumFrom values (sum + i.natAbs * i.natAbs) (index + 1) count

/-- **The sum of the squares of the first elements**; without a number of elements, of all. -/
def sum (values length : Value) : Except Fault Nat :=
  let available := values.length
  let asked := match length with
    | .undefined => available
    | v => v
  match count? available asked with
  | none => .error (.invalidLength available asked)
  | some count => sumFrom values 0 0 count

/-- The sum as a routine of the values and the number of elements. -/
def routine : Routine := .pure fun args =>
  match sum (argument args 0) (argument args 1) with
  | .ok n => .ok (.integer n)
  | .error fault => .error fault.toValue

end Turnstile.SquareSum
