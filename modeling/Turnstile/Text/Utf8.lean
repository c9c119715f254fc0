import Turnstile.Text

/-! # UTF-8

The bytes of a text, and the text of any list of bytes.

* **`Utf8.encode`** writes each character in one to four bytes; lone surrogates are written as
  U+FFFD.
* **`Utf8.decode`** reads every list of bytes: each maximal start of a character that does not go on
  as a character becomes one U+FFFD, and so does each byte that starts none.
* **`Utf8.read`** also drops one byte order mark in front. -/

namespace Turnstile.Utf8

/-- The bytes of a text, lone surrogates replaced by U+FFFD. -/
def encode (t : Text) : List UInt8 := t.toChars.flatMap String.utf8EncodeChar

/-- Where the reader stands between bytes. -/
inductive State where
  /-- Between characters. -/
  | ready
  /-- Inside a character: the bytes still owed, the least and greatest value of the next one, and
  the bits read so far. -/
  | inside (owed : Nat) (least greatest : UInt8) (bits : Nat)
  deriving DecidableEq, Repr

/-- What a byte between characters yields: characters read, and where the reader stands then. -/
def first (b : UInt8) : List Char × State :=
  if b < 0x80 then ([Char.ofNat b.toNat], .ready)
  else if 0xC2 ≤ b && b ≤ 0xDF then ([], .inside 1 0x80 0xBF (b.toNat - 0xC0))
  else if b = 0xE0 then ([], .inside 2 0xA0 0xBF 0)
  else if b = 0xED then ([], .inside 2 0x80 0x9F 0xD)
  else if 0xE1 ≤ b && b ≤ 0xEF then ([], .inside 2 0x80 0xBF (b.toNat - 0xE0))
  else if b = 0xF0 then ([], .inside 3 0x90 0xBF 0)
  else if 0xF1 ≤ b && b ≤ 0xF3 then ([], .inside 3 0x80 0xBF (b.toNat - 0xF0))
  else if b = 0xF4 then ([], .inside 3 0x80 0x8F 4)
  else ([Text.replacement], .ready)

/-- One byte: a byte that cannot go on with a character ends it as U+FFFD and is read afresh. -/
def feed : State → UInt8 → List Char × State
  | .ready, b => first b
  | .inside owed least greatest bits, b =>
    if least ≤ b && b ≤ greatest then
      let bits := bits * 0x40 + (b.toNat - 0x80)
      if owed ≤ 1 then ([Char.ofNat bits], .ready) else ([], .inside (owed - 1) 0x80 0xBF bits)
    else
      let (chars, state) := first b
      (Text.replacement :: chars, state)

/-- The characters of the bytes that follow a state; an unfinished character is one U+FFFD. -/
def decodeFrom : State → List UInt8 → List Char
  | .ready, [] => []
  | .inside .., [] => [Text.replacement]
  | state, b :: rest =>
    let (chars, state) := feed state b
    chars ++ decodeFrom state rest

/-- The characters of a list of bytes. -/
def decode (bytes : List UInt8) : List Char := decodeFrom .ready bytes

/-- The byte order mark. -/
def byteOrderMark : Char := '\uFEFF'

/-- The characters without one byte order mark in front. -/
def dropByteOrderMark : List Char → List Char
  | [] => []
  | c :: rest => if c = byteOrderMark then rest else c :: rest

/-- The text of a list of bytes, without a byte order mark in front. -/
def read (bytes : List UInt8) : Text := Text.ofChars (dropByteOrderMark (decode bytes))

end Turnstile.Utf8
