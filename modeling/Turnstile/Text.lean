/-! # Texts as UTF-16 code units

Arguments, values, paths, messages and source files are all **texts**: lists of 16-bit code units in
which a surrogate may stand alone. String literals coerce to texts.

* **`Text.ofChars`** and **`Text.toChars`** pass between units and Unicode scalar values; a lone
  surrogate reads as U+FFFD.
* **`Text.split`** and **`Text.join`** cut at a separator unit and put the parts together again.
* **`Text.trim`** drops blank units (`Text.isBlank`) at both ends. -/

namespace Turnstile

/-- A **text** is a list of UTF-16 code units; lone surrogates are allowed. -/
abbrev Text := List UInt16

namespace Text

/-- The unit of a character below U+10000. -/
def unit (c : Char) : UInt16 := c.toNat.toUInt16

/-- The units of one character: one unit below U+10000, a surrogate pair from there on. -/
def unitsOf (c : Char) : Text :=
  if c.toNat < 0x10000 then [c.toNat.toUInt16]
  else
    [(0xD800 + (c.toNat - 0x10000) / 0x400).toUInt16, (0xDC00 + (c.toNat - 0x10000) % 0x400).toUInt16]

/-- The text of a list of characters. -/
def ofChars (cs : List Char) : Text := cs.flatMap unitsOf

/-- The text of a string. -/
def ofString (s : String) : Text := ofChars s.toList

instance : Coe String Text := ⟨ofString⟩

/-- A leading surrogate, `D800` to `DBFF`. -/
def isHighSurrogate (u : UInt16) : Bool := 0xD800 ≤ u && u ≤ 0xDBFF

/-- A trailing surrogate, `DC00` to `DFFF`. -/
def isLowSurrogate (u : UInt16) : Bool := 0xDC00 ≤ u && u ≤ 0xDFFF

/-- Either kind of surrogate. -/
def isSurrogate (u : UInt16) : Bool := 0xD800 ≤ u && u ≤ 0xDFFF

/-- The character that stands for what cannot be decoded. -/
def replacement : Char := '\uFFFD'

/-- The characters of a text: a surrogate pair is one character, a lone surrogate is U+FFFD. -/
def toChars : Text → List Char
  | [] => []
  | [u] => if isSurrogate u then [replacement] else [Char.ofNat u.toNat]
  | u :: v :: rest =>
    if isHighSurrogate u && isLowSurrogate v then
      Char.ofNat (0x10000 + (u.toNat - 0xD800) * 0x400 + (v.toNat - 0xDC00)) :: toChars rest
    else if isSurrogate u then replacement :: toChars (v :: rest)
    else Char.ofNat u.toNat :: toChars (v :: rest)

/-- Whether no surrogate stands alone. -/
def isWellFormed : Text → Bool
  | [] => true
  | [u] => !isSurrogate u
  | u :: v :: rest =>
    if isHighSurrogate u && isLowSurrogate v then isWellFormed rest
    else !isSurrogate u && isWellFormed (v :: rest)

/-- The string of a text, lone surrogates replaced by U+FFFD. -/
def toString (t : Text) : String := String.ofList (toChars t)

/-! ## Blank units -/

/-- The units that count as blank: the ASCII blanks, the no-break space, the Unicode space
separators, the line and paragraph separators and the byte order mark. -/
def blanks : List UInt16 :=
  [0x9, 0xA, 0xB, 0xC, 0xD, 0x20, 0xA0, 0x1680, 0x2000, 0x2001, 0x2002, 0x2003, 0x2004, 0x2005,
   0x2006, 0x2007, 0x2008, 0x2009, 0x200A, 0x2028, 0x2029, 0x202F, 0x205F, 0x3000, 0xFEFF]

/-- Whether a unit is blank. -/
def isBlank (u : UInt16) : Bool := blanks.contains u

/-- The text without the blank units at its end. -/
def trimEnd (t : Text) : Text := (t.reverse.dropWhile isBlank).reverse

/-- The text without the blank units at both ends. -/
def trim (t : Text) : Text := trimEnd (t.dropWhile isBlank)

/-- Whether every unit is blank. -/
def isBlankText (t : Text) : Bool := t.all isBlank

/-! ## Parts -/

/-- The parts between the separators: one part more than there are separators. -/
def split (separator : UInt16) : Text → List Text
  | [] => [[]]
  | u :: rest =>
    if u = separator then [] :: split separator rest
    else
      match split separator rest with
      | [] => [[u]]
      | part :: parts => (u :: part) :: parts

/-- The parts with the separator between neighbours. -/
def join (separator : Text) (parts : List Text) : Text := List.intercalate separator parts

/-- Whether the text starts with the given one. -/
def startsWith (t start : Text) : Bool := start.isPrefixOf t

/-- Whether the text ends with the given one. -/
def endsWith (t ending : Text) : Bool := ending.isSuffixOf t

/-- The rest after a given start, if the text has that start. -/
def dropStart? (start t : Text) : Option Text :=
  match start, t with
  | [], t => some t
  | _ :: _, [] => none
  | s :: start, u :: t => if s = u then dropStart? start t else none

/-! ## Digits and numerals -/

/-- A decimal digit. -/
def isDigit (u : UInt16) : Bool := 0x30 ≤ u && u ≤ 0x39

/-- An ASCII letter. -/
def isLetter (u : UInt16) : Bool := (0x41 ≤ u && u ≤ 0x5A) || (0x61 ≤ u && u ≤ 0x7A)

/-- The digit with a value below sixteen. -/
def digit (value : Nat) : UInt16 :=
  if value < 10 then (0x30 + value).toUInt16 else (0x61 + (value - 10)).toUInt16

/-- The value of a digit in a base of up to thirty-six. -/
def digitValue? (base : Nat) (u : UInt16) : Option Nat :=
  let value :=
    if isDigit u then u.toNat - 0x30
    else if 0x61 ≤ u && u ≤ 0x7A then u.toNat - 0x61 + 10
    else if 0x41 ≤ u && u ≤ 0x5A then u.toNat - 0x41 + 10
    else 99
  if value < base then some value else none

/-- The decimal digits of a natural number, without leading zeros. -/
def ofNat (n : Nat) : Text :=
  if n < 10 then [digit n] else ofNat (n / 10) ++ [digit (n % 10)]
termination_by n

/-- The decimal numeral of an integer, with a minus sign below zero. -/
def ofInt (i : Int) : Text :=
  if i < 0 then unit '-' :: ofNat i.natAbs else ofNat i.natAbs

/-- The value of a list of digits in a base, after the digits read so far; none at any other unit.
-/
def natFrom? (base : Nat) (soFar : Nat) : Text → Option Nat
  | [] => some soFar
  | u :: rest =>
    match digitValue? base u with
    | none => none
    | some d => natFrom? base (soFar * base + d) rest

/-- The number that a non-empty list of digits in a base writes. -/
def nat? (base : Nat) (t : Text) : Option Nat :=
  if t.isEmpty then none else natFrom? base 0 t

/-- The four hexadecimal digits of a unit. -/
def hex4 (u : UInt16) : Text :=
  [digit (u.toNat / 0x1000), digit (u.toNat / 0x100 % 16), digit (u.toNat / 0x10 % 16),
   digit (u.toNat % 16)]

/-- The text with its ASCII capitals made small. -/
def toLower (t : Text) : Text := t.map fun u => if 0x41 ≤ u && u ≤ 0x5A then u + 0x20 else u

end Text

end Turnstile
