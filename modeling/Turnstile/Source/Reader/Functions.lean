import Turnstile.Source.Reader.Types

/-! # Reading functions

* **`Reader.functionTree`** reads a function from its keyword on, **`Reader.arrowFunction`** one
  written with an arrow.
* **`Reader.block`** reads a block of statements.

The readers take those of the expressions and the statements nested in what they read. -/

namespace Turnstile.Source.Reader

/-- Decorators, as many as there are and at most as many as the limit. -/
def decorators (expression : Reader Expression) : (limit : Nat) → Reader (List Expression)
  | 0 => pure []
  | limit + 1 => do
    if ← has (mark "@") then
      let first ← expression
      return first :: (← decorators expression limit)
    else return []

/-- The words that may stand in front of a parameter of a constructor. -/
def parameterWords : List Text :=
  ["public", "private", "protected", "readonly", "override"].map Text.ofString

/-- The words in front of a parameter that say how a class keeps it, at most as many as the limit. -/
def parameterModifiers : (limit : Nat) → Reader (List Text)
  | 0 => pure []
  | limit + 1 => (do
    let (name, _) ← word
    guard (parameterWords.contains name)
    guard (← sees (word <|> (do let token ← mark "\x7b" <|> mark "["; return ([], token.site))))
    return name :: (← parameterModifiers limit)) <|> pure []

/-- What the words in front of a member say about who can use it. -/
def visibilityOf (words : List Text) : Visibility :=
  if words.contains ("private" : Text) then .itself
  else if words.contains ("protected" : Text) then .heirs
  else .everyone

/-- A function's parameter with what stands for it when no argument is given. -/
def binder (expression : Reader Expression) (limit : Nat) : Reader Binder := do
  let decorators ← decorators expression limit
  let modifiers ← parameterModifiers limit
  let (formal, pattern) ← formal (typeTree limit) expression limit
  let default ← defaultValue expression
  let visibility := if modifiers.isEmpty then none else some (visibilityOf modifiers)
  return { formal, pattern, default, visibility, decorators }

/-- The result type behind a colon, with its site. -/
def resultBehindColon (limit : Nat) : Reader (Option (TypeTree × Site)) := do
  if ← has (mark ":") then
    let start ← peek
    let type ← resultType (typeTree limit)
    return some (type, (start.map (·.site)).getD default)
  else return none

/-- The statements of a block whose opening brace was read, up to the closing one or the end. -/
def blockRest (statement : Reader Statement) : (limit : Nat) → Reader (List Statement)
  | 0 => pure []
  | limit + 1 => do
    if (← peek).isNone then return []
    if ← has (mark "\x7d") then return []
    let first ← statement
    return first :: (← blockRest statement limit)

/-- A block of statements. -/
def block (statement : Reader Statement) (limit : Nat) : Reader (List Statement) := do
  let _ ← mark "\x7b"
  blockRest statement limit

/-- What a function is made of, behind its name. -/
def functionRest (expression : Reader Expression) (statement : Reader Statement) (limit : Nat)
    (site : Site) (name : Option Text) (kind : FunctionKind) (isAsync isGenerator : Bool) :
    Reader FunctionTree := do
  let typeFormals ← typeFormals (typeTree limit) limit
  let _ ← mark "("
  let binders ← itemsUntil ")" [","] (binder expression limit) limit
  let result ← resultBehindColon limit
  let body ← optionally (block statement limit)
  return { site, name, kind, isAsync, isGenerator, typeFormals, binders, result,
           body := match body with | some statements => .block statements | none => .absent }

/-- A function from its keyword on. -/
def functionTree (expression : Reader Expression) (statement : Reader Statement) (limit : Nat) :
    Reader FunctionTree := do
  let isAsync ← has (keyword "async")
  let start ← keyword "function"
  let isGenerator ← has (mark "*")
  let name ← optionally word
  let site := (name.map (·.2)).getD start.site
  functionRest expression statement limit site (name.map (·.1)) .plain isAsync isGenerator

/-- The code behind an arrow. -/
def arrowBody (expression : Reader Expression) (statement : Reader Statement) (limit : Nat) :
    Reader Body :=
  (do return .block (← block statement limit)) <|> (do return .value (← expression))

/-- A function written with an arrow. -/
def arrowFunction (expression : Reader Expression) (statement : Reader Statement) (limit : Nat) :
    Reader FunctionTree := do
  let start ← peek
  let site := (start.map (·.site)).getD default
  let isAsync ← has (do let _ ← keyword "async"; guard (!(← sees (mark "=>"))))
  let single : Reader FunctionTree := do
    let (name, nameSite) ← word
    let _ ← mark "=>"
    let binder : Binder :=
      { formal := ⟨nameSite, some name, name, false, false, none⟩
        pattern := .name nameSite name
        default := none
        visibility := none
        decorators := [] }
    return { site, name := none, kind := .arrow, isAsync, isGenerator := false, typeFormals := [],
             binders := [binder], result := none, body := ← arrowBody expression statement limit }
  let general : Reader FunctionTree := do
    let typeFormals ← typeFormals (typeTree limit) limit
    let _ ← mark "("
    let binders ← itemsUntil ")" [","] (binder expression limit) limit
    let result ← resultBehindColon limit
    let _ ← mark "=>"
    return { site, name := none, kind := .arrow, isAsync, isGenerator := false, typeFormals, binders,
             result, body := ← arrowBody expression statement limit }
  single <|> general

end Turnstile.Source.Reader
