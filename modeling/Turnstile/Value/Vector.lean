import Turnstile.Value

/-! # Vectors in an element format

* **`ElementFormat.store`** is the number that a vector of a format holds once a number is put into
  it: integers wrap around, clamped bytes stop at their ends, and single precision rounds.
* **`Value.vectorOf`** and **`Value.integerVectorOf`** build vectors from numbers and integers. -/

namespace Turnstile

/-- An integer brought into the range of signed integers of a number of bits. -/
def wrapSigned (bits : Nat) (i : Int) : Int := Int.bmod i (Nat.pow 2 bits)

/-- An integer brought into the range of unsigned integers of a number of bits. -/
def wrapUnsigned (bits : Nat) (i : Int) : Int := i % (Nat.pow 2 bits : Int)

/-- A number as a byte that stops at `0` and `255`; fractions round to nearest, ties to even. -/
def clampByte : Number → Int
  | .finite negative quanta _ =>
    if negative then 0 else min 255 (Number.roundDiv quanta Number.one)
  | .infinity negative => if negative then 0 else 255
  | .nan => 0

/-- **The number that is stored** when a number is put into a vector of a format. -/
def ElementFormat.store (format : ElementFormat) (n : Number) : Number :=
  match format with
  | .int8 => .ofInt (wrapSigned 8 n.truncate)
  | .uint8 => .ofInt (wrapUnsigned 8 n.truncate)
  | .uint8Clamped => .ofInt (clampByte n)
  | .int16 => .ofInt (wrapSigned 16 n.truncate)
  | .uint16 => .ofInt (wrapUnsigned 16 n.truncate)
  | .int32 => .ofInt (wrapSigned 32 n.truncate)
  | .uint32 => .ofInt (wrapUnsigned 32 n.truncate)
  | .float32 => n.toSingle
  | .float64 => n

namespace Value

/-- A vector of a format with numbers put into it. -/
def vectorOf (format : ElementFormat) (elements : List Number) : Value :=
  .numberVector format (elements.map format.store)

/-- A vector of 64-bit integers, signed or not. -/
def integerVectorOf (signed : Bool) (elements : List Int) : Value :=
  .integerVector (elements.map (if signed then wrapSigned 64 else wrapUnsigned 64))

end Value

end Turnstile
