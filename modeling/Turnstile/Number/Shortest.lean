import Turnstile.Number
import Turnstile.Text

/-! # The shortest decimal that reads back

* **`Decimal`** is a whole number of digits times a power of ten.
* **`Number.shortest`** finds, for a magnitude, the decimal with the fewest digits that rounds back
  to it. On each grid of one to seventeen digits it looks at the two points around the magnitude;
  the first grid with a point that reads back wins, and of two such points the nearer one.
* **`Number.toText`** writes it: positional from `10 ^ (-6)` up to `10 ^ 21`, else with an exponent.
  -/

namespace Turnstile

/-- **A decimal**: `digits * 10 ^ exponent`. -/
structure Decimal where
  /-- The digits, read as one number. -/
  digits : Nat
  /-- The power of ten they are multiplied by. -/
  exponent : Int
  deriving DecidableEq, Repr

namespace Decimal

/-- The same value without zeros at the end of the digits. -/
def stripped (d : Decimal) : Decimal :=
  if h : d.digits ≠ 0 ∧ d.digits % 10 = 0 then stripped ⟨d.digits / 10, d.exponent + 1⟩ else d
termination_by d.digits
decreasing_by omega

/-- The least power of ten that is written with an exponent. -/
def positionalEnd : Int := 21

/-- The number of zeros after the point from which on an exponent is used. -/
def leadingZerosEnd : Int := 6

/-- Positional or exponent notation of a positive decimal. -/
def toText (d : Decimal) : Text :=
  let digits := Text.ofNat d.digits
  let point : Int := digits.length + d.exponent
  if 0 ≤ d.exponent && point ≤ positionalEnd then
    digits ++ List.replicate d.exponent.toNat (Text.unit '0')
  else if 0 < point && point ≤ positionalEnd then
    digits.take point.toNat ++ Text.unit '.' :: digits.drop point.toNat
  else if -leadingZerosEnd < point && point ≤ 0 then
    "0." ++ List.replicate (-point).toNat (Text.unit '0') ++ digits
  else
    let fraction : Text := if digits.length = 1 then [] else Text.unit '.' :: digits.drop 1
    let sign : Text := if point - 1 < 0 then "-" else "+"
    digits.take 1 ++ fraction ++ "e" ++ sign ++ Text.ofNat (point - 1).natAbs

end Decimal

namespace Number

/-- A magnitude in quanta over `10 ^ exponent`, as numerator and denominator. -/
def scaled (quanta : Nat) (exponent : Int) : Nat × Nat :=
  (quanta * Nat.pow 10 (-exponent).toNat, one * Nat.pow 10 exponent.toNat)

/-- The exponent of the leading decimal digit of a positive magnitude. -/
def leadingExponent (quanta : Nat) : Int :=
  let estimate : Int := ((quanta.log2 : Int) - 1074) * 30103 / 100000 - 1
  let candidates := [estimate, estimate + 1, estimate + 2, estimate + 3]
  (candidates.find? fun e =>
    let (n, d) := scaled quanta (e + 1)
    decide (n < d)).getD estimate

/-- Whether a decimal reads back as a magnitude. -/
def readsBack (quanta : Nat) (d : Decimal) : Bool :=
  match ofDecimal false d.digits d.exponent with
  | .finite _ q _ => q == quanta
  | _ => false

/-- The point that reads back on the grid of multiples of `10 ^ exponent`, if one of the two around
the magnitude does; of two the nearer, and the even one when both are as near. -/
def onGrid? (quanta : Nat) (exponent : Int) : Option Decimal :=
  let (n, d) := scaled quanta exponent
  let below : Decimal := ⟨n / d, exponent⟩
  let above : Decimal := ⟨n / d + 1, exponent⟩
  match readsBack quanta below, readsBack quanta above with
  | true, true =>
    if 2 * (n % d) < d || (2 * (n % d) = d && n / d % 2 = 0) then some below else some above
  | true, false => some below
  | false, true => some above
  | false, false => none

/-- The decimal with the fewest digits that reads back as a positive magnitude. -/
def shortest (quanta : Nat) : Decimal :=
  let leading := leadingExponent quanta
  let grids := (List.range 17).map fun (i : Nat) => leading - (i : Int)
  ((grids.findSome? (onGrid? quanta)).getD ⟨0, 0⟩).stripped

/-- The text of a number; both zeros are written `0`. -/
def toText : Number → Text
  | .nan => "NaN"
  | .infinity negative => if negative then "-Infinity" else "Infinity"
  | .finite negative quanta _ =>
    if quanta = 0 then "0"
    else if negative then Text.unit '-' :: (shortest quanta).toText
    else (shortest quanta).toText

end Number

end Turnstile
