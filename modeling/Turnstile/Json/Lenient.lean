import Turnstile.Json
import Turnstile.Source.Reader.Types

/-! # JSON with comments

JSON as it is written by hand: comments between the tokens, and a comma behind the last item.

* **`Json.readLenient`** reads such a text. What is left open at the end counts as closed there, and
  a missing comma as written. -/

namespace Turnstile.Json

open Source

/-- Items up to a closing mark or the end, with commas anywhere between them. -/
def lenientItems {α : Type} (closing : Text) (item : Reader α) : (limit : Nat) → Reader (List α)
  | 0 => pure []
  | limit + 1 => do
    if (← Reader.peek).isNone then return []
    if ← Reader.has (Reader.mark closing) then return []
    if ← Reader.has (Reader.mark ",") then lenientItems closing item limit
    else
      match ← Reader.optionally item with
      | some first => return first :: (← lenientItems closing item limit)
      | none =>
        let _ ← Reader.next
        lenientItems closing item limit

/-- A member of an object. -/
def lenientMember (value : Reader Json) : Reader (Text × Json) := do
  let (key, _) ← Reader.quoted <|> Reader.word
  let _ ← Reader.optionally (Reader.mark ":")
  return (key, ← value)

/-- A value, nested at most as deep as the limit. -/
def lenientValue : (limit : Nat) → Reader Json
  | 0 => failure
  | limit + 1 => do
    let token ← Reader.next
    match token.lexeme with
    | .text value => return .text value
    | .number spelling => return .number (Reader.numeralValue spelling)
    | .word name =>
      if name == "true" then return .boolean true
      else if name == "false" then return .boolean false
      else return .null
    | .mark spelling =>
      if spelling == "\x7b" then
        return .object (← lenientItems "\x7d" (lenientMember (lenientValue limit)) limit)
      else if spelling == "[" then return .array (← lenientItems "]" (lenientValue limit) limit)
      else if spelling == "-" then
        match ← lenientValue limit with
        | .number n => return .number n.neg
        | other => return other
      else failure
    | _ => failure

/-- **A text read as JSON with comments**; nothing if it holds no value. Of an object, all members
are kept as they are written, also those under one key. -/
def readLenient (text : Text) : Option Json :=
  let all := tokens text
  (lenientValue (all.length + 1) all).map (·.1)

end Turnstile.Json
