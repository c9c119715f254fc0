import Turnstile.Source.Tree

/-! # Readers

A **reader** takes what it understands off the front of a list of tokens, or fails.

* **`Reader.optionally`** and `<|>` try; a reader that fails has taken nothing.
* **`Reader.itemsUntil`** reads items with separators between them up to a closing mark.

Readers that repeat themselves take a limit, which counts down; the number of tokens is always
enough. -/

namespace Turnstile.Source

/-- A **reader** of tokens. -/
abbrev Reader := StateT (List Token) Option

namespace Reader

/-- The next token, which stays. -/
def peek : Reader (Option Token) := fun tokens => some (tokens.head?, tokens)

/-- The next token, which is taken off. -/
def next : Reader Token := fun tokens =>
  match tokens with
  | [] => none
  | token :: rest => some (token, rest)

/-- A given mark. -/
def mark (spelling : Text) : Reader Token := fun tokens =>
  match tokens with
  | [] => none
  | token :: rest => if token.lexeme = .mark spelling then some (token, rest) else none

/-- A given word. -/
def keyword (name : Text) : Reader Token := fun tokens =>
  match tokens with
  | [] => none
  | token :: rest => if token.lexeme = .word name then some (token, rest) else none

/-- A given word that goes on with the line. -/
def keywordInLine (name : Text) : Reader Token := fun tokens =>
  match tokens with
  | [] => none
  | token :: rest =>
    if token.lexeme = .word name && !token.opensLine then some (token, rest) else none

/-- Any word, with its site. -/
def word : Reader (Text × Site) := fun tokens =>
  match tokens with
  | [] => none
  | token :: rest =>
    match token.lexeme with
    | .word name => some ((name, token.site), rest)
    | _ => none

/-- A quoted text, with its site. -/
def quoted : Reader (Text × Site) := fun tokens =>
  match tokens with
  | [] => none
  | token :: rest =>
    match token.lexeme with
    | .text value => some ((value, token.site), rest)
    | _ => none

/-- A reader's result if it succeeds. -/
def optionally {α : Type} (reader : Reader α) : Reader (Option α) := fun tokens =>
  match reader tokens with
  | some (result, rest) => some (some result, rest)
  | none => some (none, tokens)

/-- Whether a reader succeeds; what it read is taken off. -/
def has {α : Type} (reader : Reader α) : Reader Bool := fun tokens =>
  match reader tokens with
  | some (_, rest) => some (true, rest)
  | none => some (false, tokens)

/-- Whether a reader would succeed; nothing is taken off. -/
def sees {α : Type} (reader : Reader α) : Reader Bool := fun tokens =>
  some ((reader tokens).isSome, tokens)

/-- Whether the next token is one of the given marks, or there is none. -/
def seesMark (spellings : List Text) : Reader Bool := fun tokens =>
  match tokens with
  | [] => some (true, tokens)
  | token :: _ =>
    match token.lexeme with
    | .mark spelling => some (spellings.contains spelling, tokens)
    | _ => some (false, tokens)

/-- **Items up to a closing mark**, with separators between or behind them. -/
def itemsUntil {α : Type} (closing : Text) (separators : List Text) (item : Reader α) :
    (limit : Nat) → Reader (List α)
  | 0 => failure
  | limit + 1 => do
    if ← has (mark closing) then return []
    let first ← item
    if ← has (mark closing) then return [first]
    match ← peek with
    | some token =>
      match token.lexeme with
      | .mark spelling =>
        if separators.contains spelling then
          let _ ← next
          return first :: (← itemsUntil closing separators item limit)
        else if token.opensLine then return first :: (← itemsUntil closing separators item limit)
        else failure
      | _ =>
        if token.opensLine then return first :: (← itemsUntil closing separators item limit)
        else failure
    | none => failure

/-- Items with a separator between them, at least one. -/
def itemsBetween {α : Type} (separator : Text) (item : Reader α) : (limit : Nat) → Reader (List α)
  | 0 => failure
  | limit + 1 => do
    let first ← item
    if ← has (mark separator) then return first :: (← itemsBetween separator item limit)
    return [first]

/-- What is left of a braced part whose opening brace was read; `depth` braces inside it are open.
-/
def skipBraces (depth : Nat) : List Token → List Token
  | [] => []
  | token :: rest =>
    if token.lexeme = .mark "\x7b" then skipBraces (depth + 1) rest
    else if token.lexeme = .mark "\x7d" then
      match depth with
      | 0 => rest
      | depth + 1 => skipBraces depth rest
    else skipBraces depth rest

/-- A braced part that is not looked at. -/
def braces : Reader Unit := do
  let _ ← mark "\x7b"
  modify (skipBraces 0)

end Reader

end Turnstile.Source
