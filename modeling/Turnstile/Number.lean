/-! # Binary64 numbers, exactly

A finite number is a sign and a whole number of **quanta**, the quantum `2 ^ (-1074)` being the
least positive magnitude. Which counts of quanta a number may have is a divisibility condition
(`Number.IsRepresentable`), so order, sums and products are integer arithmetic followed by one
rounding.

* **`Number.nearest`** rounds a ratio of quanta to the nearest representable count, ties to even.
* **`Number.ofRatio`**, **`Number.ofInt`** and **`Number.ofDecimal`** give the number nearest to an
  exact value; past the largest magnitude that is an infinity.
* **`Number.lt`** and **`Number.le`** compare; both are false when a side is `nan`. -/

namespace Turnstile

namespace Number

/-- The distance between neighbouring magnitudes at a count of quanta: 53 significant bits. -/
def spacing (quanta : Nat) : Nat := Nat.pow 2 (quanta.log2 - 52)

/-- The quanta in one. -/
def one : Nat := Nat.pow 2 1074

/-- The quanta in `2 ^ 1024`, the first magnitude that is too large. -/
def tooLarge : Nat := Nat.pow 2 2098

/-- **A count of quanta that a finite number can have**: below `2 ^ 1024` and on the grid of its
spacing. -/
def IsRepresentable (quanta : Nat) : Prop := quanta < tooLarge ∧ spacing quanta ∣ quanta

instance (quanta : Nat) : Decidable (IsRepresentable quanta) :=
  inferInstanceAs (Decidable (_ ∧ _))

end Number

/-- A **binary64 number**. Both zeros are finite, told apart by their sign. -/
inductive Number where
  /-- Not a number. -/
  | nan
  /-- An infinity with its sign. -/
  | infinity (negative : Bool)
  /-- A finite number: its sign and its magnitude in quanta. -/
  | finite (negative : Bool) (quanta : Nat) (representable : Number.IsRepresentable quanta)
  deriving DecidableEq

namespace Number

/-! ## Rounding -/

/-- The quotient rounded to the nearest natural number, a half going to the even neighbour. -/
def roundDiv (n d : Nat) : Nat :=
  if 2 * (n % d) < d then n / d
  else if d < 2 * (n % d) then n / d + 1
  else n / d + n / d % 2

/-- The representable count of quanta nearest to `n / d`, ties to even. -/
def nearest (n d : Nat) : Nat := spacing (n / d) * roundDiv n (d * spacing (n / d))

/-- The number with a count of quanta, or the infinity of its sign when that count is too large. -/
def ofQuanta (negative : Bool) (quanta : Nat) : Number :=
  if h : IsRepresentable quanta then .finite negative quanta h else .infinity negative

/-- The number nearest to the ratio `n / d`. -/
def ofRatio (negative : Bool) (n d : Nat) : Number := ofQuanta negative (nearest (n * one) d)

/-- The number nearest to a natural number. -/
def ofNat (n : Nat) : Number := ofRatio false n 1

/-- The number nearest to an integer; zero is positive. -/
def ofInt (i : Int) : Number := ofRatio (decide (i < 0)) i.natAbs 1

instance (n : Nat) : OfNat Number n := ⟨ofNat n⟩

/-- The zero with a sign. -/
def zero (negative : Bool) : Number := ofQuanta negative 0

/-- The number nearest to `digits * 10 ^ exponent`. Exponents far outside the range are answered
before any power is taken. -/
def ofDecimal (negative : Bool) (digits : Nat) (exponent : Int) : Number :=
  if digits = 0 then zero negative
  else if 400 < exponent then .infinity negative
  else if exponent + (digits.log2 + 1) < -400 then zero negative
  else if 0 ≤ exponent then ofRatio negative (digits * Nat.pow 10 exponent.toNat) 1
  else ofRatio negative digits (Nat.pow 10 (-exponent).toNat)

/-! ## Order -/

/-- A magnitude with its sign. -/
def signed (negative : Bool) (magnitude : Nat) : Int :=
  if negative then -(magnitude : Int) else (magnitude : Int)

/-- A number's place on the line in quanta; the infinities stand just past the finite numbers. -/
def place? : Number → Option Int
  | .nan => none
  | .infinity negative => some (signed negative tooLarge)
  | .finite negative quanta _ => some (signed negative quanta)

/-- Less than; false when a side is `nan`. -/
def lt (x y : Number) : Bool :=
  match x.place?, y.place? with
  | some a, some b => decide (a < b)
  | _, _ => false

/-- Less than or equal; false when a side is `nan`. -/
def le (x y : Number) : Bool :=
  match x.place?, y.place? with
  | some a, some b => decide (a ≤ b)
  | _, _ => false

/-- Whether it is not a number. -/
def isNaN : Number → Bool
  | .nan => true
  | _ => false

/-! ## Integers -/

/-- The integer that a number is, if it is one; both zeros are `0`. -/
def toInt? : Number → Option Int
  | .finite negative quanta _ =>
    if quanta % one = 0 then some (signed negative (quanta / one)) else none
  | _ => none

/-- Whether a number is an integer. -/
def isInteger (x : Number) : Bool := x.toInt?.isSome

/-- The largest integer up to which every integer is a number of its own neighbours. -/
def maxSafeInteger : Nat := Nat.pow 2 53 - 1

/-- The safe integer that a number is, if it is one. -/
def toSafeInt? (x : Number) : Option Int :=
  match x.toInt? with
  | some i => if i.natAbs ≤ maxSafeInteger then some i else none
  | none => none

/-- The number with its fraction dropped, as an integer; `nan` and the infinities give `0`. -/
def truncate : Number → Int
  | .finite negative quanta _ => signed negative (quanta / one)
  | _ => 0

/-! ## Arithmetic -/

/-- The number with the other sign. -/
def neg : Number → Number
  | .nan => .nan
  | .infinity negative => .infinity (!negative)
  | .finite negative quanta h => .finite (!negative) quanta h

/-- The sum, rounded once. A sum of zero is negative only when both sides are. -/
def add : Number → Number → Number
  | .nan, _ => .nan
  | _, .nan => .nan
  | .infinity a, .infinity b => if a = b then .infinity a else .nan
  | .infinity a, .finite .. => .infinity a
  | .finite .., .infinity b => .infinity b
  | .finite a x _, .finite b y _ =>
    let sum := signed a x + signed b y
    if sum = 0 then zero (a && b)
    else ofQuanta (decide (sum < 0)) (nearest sum.natAbs 1)

/-- The product, rounded once. -/
def mul : Number → Number → Number
  | .nan, _ => .nan
  | _, .nan => .nan
  | .infinity a, .infinity b => .infinity (a != b)
  | .infinity a, .finite b y _ => if y = 0 then .nan else .infinity (a != b)
  | .finite a x _, .infinity b => if x = 0 then .nan else .infinity (a != b)
  | .finite a x _, .finite b y _ => ofQuanta (a != b) (nearest (x * y) one)

/-- The nearest number of the narrower format with 24 significant bits. -/
def toSingle : Number → Number
  | .finite negative quanta _ =>
    let spacing := Nat.pow 2 (max 925 (quanta.log2 - 23))
    let rounded := spacing * roundDiv quanta spacing
    if Nat.pow 2 1202 ≤ rounded then .infinity negative else ofQuanta negative rounded
  | x => x

end Number

end Turnstile
