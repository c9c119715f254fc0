import Turnstile.Number.Shortest

/-! # JSON trees

* **`Json`** is a JSON value; object members keep their order.
* **`Json.render`** writes it without blanks, **`Json.renderIndented`** over several lines with two
  blanks a level.
* **`Json.quote`** writes a text between quotes. Control units and lone surrogates are escaped, so
  the result is well formed whatever the text holds. -/

namespace Turnstile

/-- A **JSON value**. -/
inductive Json where
  | null
  | boolean (b : Bool)
  | number (n : Number)
  | text (t : Text)
  | array (elements : List Json)
  | object (members : List (Text × Json))

namespace Json

/-- The escape of a unit inside quotes, if it needs one wherever it stands. -/
def escape? (u : UInt16) : Option Text :=
  if u = 0x22 then some "\\\""
  else if u = 0x5C then some "\\\\"
  else if u = 0x8 then some "\\b"
  else if u = 0xC then some "\\f"
  else if u = 0xA then some "\\n"
  else if u = 0xD then some "\\r"
  else if u = 0x9 then some "\\t"
  else if u < 0x20 then some ("\\u" ++ Text.hex4 u)
  else none

/-- A unit that is not half of a pair: escaped when it is a surrogate or must be. -/
def quoteUnit (u : UInt16) : Text :=
  if Text.isSurrogate u then "\\u" ++ Text.hex4 u else (escape? u).getD [u]

/-- The units between the quotes. -/
def quoteUnits : Text → Text
  | [] => []
  | [u] => quoteUnit u
  | u :: v :: rest =>
    if Text.isHighSurrogate u && Text.isLowSurrogate v then u :: v :: quoteUnits rest
    else quoteUnit u ++ quoteUnits (v :: rest)

/-- A text between quotes. -/
def quote (t : Text) : Text := Text.unit '"' :: quoteUnits t ++ [Text.unit '"']

/-- The compact text of a JSON value. -/
def render : Json → Text
  | .null => "null"
  | .boolean b => if b then "true" else "false"
  | .number n => n.toText
  | .text t => quote t
  | .array elements => "[" ++ Text.join "," (renderAll elements) ++ "]"
  | .object members => "\x7b" ++ Text.join "," (renderMembers members) ++ "\x7d"
where
  /-- The texts of the elements. -/
  renderAll : List Json → List Text
    | [] => []
    | e :: rest => render e :: renderAll rest
  /-- The texts of the members. -/
  renderMembers : List (Text × Json) → List Text
    | [] => []
    | (key, value) :: rest => (quote key ++ ":" ++ render value) :: renderMembers rest

/-- A bracketed list, one item a line, indented one level more than its closing bracket. -/
def block (opening closing : Text) (level : Nat) (items : List Text) : Text :=
  if items.isEmpty then opening ++ closing
  else
    let newline (n : Nat) : Text := "\n" ++ List.replicate (2 * n) (Text.unit ' ')
    opening ++ newline (level + 1) ++ Text.join ("," ++ newline (level + 1)) items
      ++ newline level ++ closing

/-- The text of a JSON value over several lines, at a level of indentation. -/
def renderIndented (level : Nat) : Json → Text
  | .null => "null"
  | .boolean b => if b then "true" else "false"
  | .number n => n.toText
  | .text t => quote t
  | .array elements => block "[" "]" level (renderAll (level + 1) elements)
  | .object members => block "\x7b" "\x7d" level (renderMembers (level + 1) members)
where
  /-- The texts of the elements. -/
  renderAll (level : Nat) : List Json → List Text
    | [] => []
    | e :: rest => renderIndented level e :: renderAll level rest
  /-- The texts of the members. -/
  renderMembers (level : Nat) : List (Text × Json) → List Text
    | [] => []
    | (key, value) :: rest =>
      (quote key ++ ": " ++ renderIndented level value) :: renderMembers level rest

end Json

end Turnstile
