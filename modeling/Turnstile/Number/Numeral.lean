import Turnstile.Number
import Turnstile.Text

/-! # Numerals in text

How a text is read as a number or as an integer of any size. Blank units at both ends do not count.

* **`Numeral.number`**: decimal numerals with an optional sign, point and exponent, `Infinity`, and
  unsigned numerals with the prefixes `0x`, `0o` and `0b`. A blank text is zero, any other text
  `nan`.
* **`Numeral.integer?`**: decimal digits with an optional sign and the same prefixes; a blank text
  is zero, any other text is none. -/

namespace Turnstile.Numeral

/-- The base that a prefix names, and the digits behind it. -/
def prefixed? (t : Text) : Option (Nat × Text) :=
  match t with
  | zero :: letter :: digits =>
    if zero = Text.unit '0' then
      if letter = Text.unit 'x' || letter = Text.unit 'X' then some (16, digits)
      else if letter = Text.unit 'o' || letter = Text.unit 'O' then some (8, digits)
      else if letter = Text.unit 'b' || letter = Text.unit 'B' then some (2, digits)
      else none
    else none
  | _ => none

/-- A sign in front: whether it is a minus, and what follows. -/
def sign (t : Text) : Bool × Text :=
  match t with
  | [] => (false, [])
  | u :: rest =>
    if u = Text.unit '-' then (true, rest)
    else if u = Text.unit '+' then (false, rest)
    else (false, t)

/-- The digits in front, and what follows them. -/
def digits (t : Text) : Text × Text := (t.takeWhile Text.isDigit, t.dropWhile Text.isDigit)

/-- The value of a list of decimal digits, zero when it is empty. -/
def value (ds : Text) : Nat := (Text.natFrom? 10 0 ds).getD 0

/-- The exponent that a text writes: nothing is zero, else `e`, a sign and at least one digit. -/
def exponent? (t : Text) : Option Int :=
  match t with
  | [] => some 0
  | e :: rest =>
    if e = Text.unit 'e' || e = Text.unit 'E' then
      let (negative, rest) := sign rest
      (Text.nat? 10 rest).map fun n => if negative then -(n : Int) else n
    else none

/-- A fraction in front: the digits behind a point, and what follows; no point, no digits. -/
def fraction (t : Text) : Text × Text :=
  match t with
  | [] => ([], [])
  | u :: rest => if u = Text.unit '.' then digits rest else ([], t)

/-- An unsigned decimal numeral with an optional point and exponent. -/
def decimal? (negative : Bool) (t : Text) : Option Number :=
  let (whole, rest) := digits t
  let (part, rest) := fraction rest
  if whole.isEmpty && part.isEmpty then none
  else
    (exponent? rest).map fun e =>
      Number.ofDecimal negative (value (whole ++ part)) (e - part.length)

/-- A decimal numeral or `Infinity`, with an optional sign. -/
def signed? (t : Text) : Option Number :=
  let (negative, rest) := sign t
  if rest = "Infinity" then some (.infinity negative) else decimal? negative rest

/-- **The number that a text writes**; a text that writes none is `nan`. -/
def number (t : Text) : Number :=
  let t := t.trim
  if t.isEmpty then .zero false
  else
    match prefixed? t with
    | some (base, ds) => ((Text.nat? base ds).map Number.ofNat).getD .nan
    | none => (signed? t).getD .nan

/-- **The integer that a text writes**, if it writes one. -/
def integer? (t : Text) : Option Int :=
  let t := t.trim
  if t.isEmpty then some 0
  else
    match prefixed? t with
    | some (base, ds) => (Text.nat? base ds).map fun n => (n : Int)
    | none =>
      let (negative, ds) := sign t
      (Text.nat? 10 ds).map fun n => if negative then -(n : Int) else n

end Turnstile.Numeral
