import Turnstile.Source.Reader.Classes

/-! # Reading expressions

* **`Reader.primary`** reads an expression in front of its suffixes, **`Reader.suffixes`** what
  stands behind it, **`Reader.operand`** both with the operators in front.
* **`Reader.binaryRest`** reads operators and operands by how tightly the operators bind.
* **`Reader.wholeExpression`** reads an expression whose parts are read by given readers. -/

namespace Turnstile.Source.Reader

/-- The words that are no names of values. -/
def reserved : List Text :=
  ["break", "case", "catch", "class", "const", "continue", "debugger", "default",
    "delete", "do", "else",
   "enum", "export", "extends", "false", "finally", "for", "function", "if", "import", "in",
   "instanceof", "new", "null", "return", "super", "switch", "this", "throw", "true", "try", "typeof",
   "var", "void", "while", "with", "yield"].map Text.ofString

/-- The expressions in the holes of a template that stands at a site. -/
def templateHoles (expression : Reader Expression) (site : Site) (spelling : Text) : List Expression :=
  (Template.holes site spelling).map fun (start, code) =>
    ((expression (tokensOf false (pieces start code))).map (·.1)).getD (.other start)

/-- A template. One without holes is the text that it shows. -/
def template (expression : Reader Expression) (site : Site) (spelling : Text) : Expression :=
  match templateHoles expression site spelling with
  | [] => .literal site (.text (Template.texts spelling).flatten)
  | holes => .template site (Template.texts spelling) holes

/-- An argument or an element: an expression, or the elements of one put in place. -/
def spreadable (expression : Reader Expression) : Reader Expression := do
  let start ← peek
  if ← has (mark "...") then return .spread ((start.map (·.site)).getD default) (← expression)
  else expression

/-- Arguments of a call, behind the opening bracket. -/
def argumentsRest (expression : Reader Expression) (limit : Nat) : Reader (List Expression) :=
  itemsUntil ")" [","] (spreadable expression) limit

/-- A method of a record expression, or a half of an accessor. -/
def recordMethod (expression : Reader Expression) (statement : Reader Statement) (limit : Nat) :
    Reader RecordItem := do
  let reads ← standsInFront "get"
  let writes ← standsInFront "set"
  let isAsync ← standsInFront "async"
  let isGenerator ← has (mark "*")
  let key ← memberKey expression
  guard (← sees (mark "(" <|> mark "<"))
  let kind : FunctionKind := if reads then .getter else if writes then .setter else .method
  return .method key
    (← functionRest expression statement limit key.site key.text? kind isAsync isGenerator)

/-- An item of a record expression. -/
def recordItem (expression : Reader Expression) (statement : Reader Statement) (limit : Nat) :
    Reader RecordItem :=
  (do
    let _ ← mark "..."
    return .spread (← expression))
  <|> recordMethod expression statement limit
  <|> (do
    let key ← memberKey expression
    let _ ← mark ":"
    return .property key (← expression))
  <|> (do
    let (name, site) ← word
    return .short site name (← defaultValue expression))

/-- Expressions with commas between them, as one. -/
def sequence (expression : Reader Expression) (limit : Nat) : Reader Expression := do
  let parts ← itemsBetween "," expression limit
  match parts.getLast? with
  | some last => return parts.dropLast.foldr (fun e rest => .binary e "," rest) last
  | none => failure

/-- A word that stands for a value. -/
def wordValue (expression : Reader Expression) (statement : Reader Statement) (limit : Nat)
    (start : Token) (name : Text) : Reader Expression := do
  let site := start.site
  if name == "true" then return .literal site (.boolean true)
  else if name == "false" then return .literal site (.boolean false)
  else if name == "null" then return .null site
  else if name == "this" then return .receiver site
  else if name == "super" then return .base site
  else if name == "import" then
    (do
      let _ ← mark "("
      let arguments ← argumentsRest expression limit
      return .loaded site (arguments.headD (.other site)))
    <|> (do
      let _ ← mark "."
      let _ ← keyword "meta"
      return .other site)
  else if name == "class" then
    modify fun rest => start :: rest
    return .class (← classTree expression statement limit false [])
  else if reserved.contains name then failure
  else return .name site name

/-- An expression in front of what may stand behind it. -/
def primary (expression : Reader Expression) (statement : Reader Statement) (limit : Nat) :
    Reader Expression :=
  (do return .function (← functionTree expression statement limit))
  <|> (do
    let token ← next
    let site := token.site
    match token.lexeme with
    | .text value => return .literal site (.text value)
    | .number spelling => return .literal site (.number (numeralValue spelling))
    | .integer spelling => return .literal site (.integer (integerValue spelling))
    | .template spelling => return template expression site spelling
    | .pattern => return .pattern site
    | .word name => wordValue expression statement limit token name
    | .mark spelling =>
      if spelling == "(" then
        let inner ← sequence expression limit
        let _ ← mark ")"
        return .group site inner
      else if spelling == "[" then
        return .array site (← itemsUntil "]" [","] (do
          if ← seesMark [","] then return .hole site
          spreadable expression) limit)
      else if spelling == "\x7b" then
        return .record site (← itemsUntil "\x7d" [","] (recordItem expression statement limit) limit)
      else failure
    | _ => failure)

/-- A template handed to a function. -/
def taggedRest (expression : Reader Expression) (tag : Expression) (arguments : List TypeTree) :
    Reader Expression := do
  let token ← next
  match token.lexeme with
  | .template spelling =>
    return .tagged tag arguments token.site (templateHoles expression token.site spelling)
  | _ => failure

/-- What a call is called with. -/
def callRest (expression : Reader Expression) (limit : Nat) (callee : Expression) (isOptional : Bool) :
    Reader Expression := do
  let arguments ← typeArguments (typeTree limit) limit
  (do
    let _ ← mark "("
    return .call callee arguments (← argumentsRest expression limit) isOptional)
  <|> (do
    guard !isOptional
    taggedRest expression callee arguments)

/-- Whether an expression may go on behind type arguments without being called. -/
def endsApplied : Reader Bool := fun tokens =>
  match tokens with
  | [] => some (true, tokens)
  | token :: _ =>
    match token.lexeme with
    | .mark spelling =>
      let closers : List Text := [")", "]", "\x7d", ",", ";", ":", ".", "?."].map Text.ofString
      some (closers.contains spelling, tokens)
    | _ => some (token.opensLine, tokens)

/-- An expression with the members, calls and the like behind it. With `calls` off it ends in front
of a call. -/
def suffixes (expression : Reader Expression) (calls : Bool) :
    (limit : Nat) → Expression → Reader Expression
  | 0, operand => pure operand
  | limit + 1, operand =>
    (do
      let _ ← mark "."
      let (name, site) ← word
      suffixes expression calls limit (.member operand site name false))
    <|> (do
      let _ ← mark "?."
      let behind ←
        (do
          let (name, site) ← word
          return .member operand site name true)
        <|> (do
          let _ ← mark "["
          let index ← expression
          let _ ← mark "]"
          return .element operand index true)
        <|> callRest expression limit operand true
      suffixes expression calls limit behind)
    <|> (do
      let _ ← mark "["
      let index ← sequence expression limit
      let _ ← mark "]"
      suffixes expression calls limit (.element operand index false))
    <|> (do
      guard calls
      suffixes expression calls limit (← callRest expression limit operand false))
    <|> (do
      guard calls
      guard (← sees (mark "<"))
      let arguments ← typeArguments (typeTree limit) limit
      guard (← endsApplied)
      suffixes expression calls limit (.applied operand arguments))
    <|> (do
      let token ← mark "!"
      guard (!token.opensLine)
      suffixes expression calls limit (.nonNull operand))
    <|> (do
      let token ← mark "++" <|> mark "--"
      guard (!token.opensLine)
      return .step operand.site operand)
    <|> pure operand

/-- What is made by `new`. -/
def construction (expression : Reader Expression) (statement : Reader Statement) (limit : Nat) :
    Reader Expression := do
  let start ← keyword "new"
  let callee ← suffixes expression false limit (← primary expression statement limit)
  let typeArguments ← typeArguments (typeTree limit) limit <|> pure []
  let arguments ← (do let _ ← mark "("; argumentsRest expression limit) <|> pure []
  return .construct start.site callee typeArguments arguments

/-- An operand: operators in front, then an expression with its suffixes. -/
def operand (expression : Reader Expression) (statement : Reader Statement) :
    (limit : Nat) → Reader Expression
  | 0 => failure
  | limit + 1 =>
    (do
      let token ← mark "!" <|> mark "-" <|> mark "+" <|> mark "~"
      let inner ← operand expression statement limit
      match token.lexeme, inner with
      | .mark spelling, .literal _ (.number n) =>
        if spelling == "-" then return .literal token.site (.number n.neg)
        else return .unary token.site spelling inner
      | .mark spelling, .literal _ (.integer i) =>
        if spelling == "-" then return .literal token.site (.integer (-i))
        else return .unary token.site spelling inner
      | .mark spelling, _ => return .unary token.site spelling inner
      | _, _ => failure)
    <|> (do
      let token ← mark "++" <|> mark "--"
      return .step token.site (← operand expression statement limit))
    <|> (do
      let (name, site) ← word
      guard ([("typeof" : Text), "void", "delete", "await"].contains name)
      guard !(← seesMark ["=>", ")", ",", ";", "="])
      return .unary site name (← operand expression statement limit))
    <|> (do
      let start ← keyword "yield"
      let isWhole ← has (mark "*")
      let value ← optionally (do
        guard !((← peek).map (·.opensLine)).getD true
        expression)
      return .yielded start.site isWhole value)
    <|> (do
      let _ ← mark "<"
      let type ← (do let _ ← keyword "const"; return none) <|> (some <$> typeTree limit)
      let _ ← mark ">"
      return .cast (← operand expression statement limit) type)
    <|> (do
      let made ← construction expression statement limit
      suffixes expression true limit made)
    <|> (do suffixes expression true limit (← primary expression statement limit))

/-- The operators between two operands that are one mark, with how tightly they bind. -/
def binaryOperators : List (Text × Nat) :=
  [("??", 1), ("||", 2), ("&&", 3), ("|", 4), ("^", 5), ("&", 6), ("==", 7), ("!=", 7), ("===", 7),
   ("!==", 7), ("<", 8), ("<=", 8), ("<<", 9), ("+", 10), ("-", 10), ("*", 11), ("/", 11), ("%", 11),
   ("**", 12)]

/-- The marks that follow one another without anything between, as one operator: those that start
with an angle bracket that closes. -/
def closingOperator : Reader Text := do
  let first ← mark ">"
  let adjoining (token : Token) (n : Nat) (spelling : Text) : Reader Unit := do
    let behind ← mark spelling
    guard (behind.site.offset = token.site.offset + n)
  (do adjoining first 1 ">"; adjoining first 2 ">"; return ">>>")
    <|> (do adjoining first 1 ">"; return ">>")
    <|> (do adjoining first 1 "="; return ">=")
    <|> return ">"

/-- An operator between two operands that binds at least as tightly as given, and how tightly. -/
def binaryOperator (least : Nat) : Reader (Text × Nat) := do
  let (spelling, tightness) ←
    (do
      let spelling ← closingOperator
      return (spelling, if spelling == ">>" || spelling == ">>>" then 9 else 8))
    <|> (do
      let token ← next
      match token.lexeme with
      | .mark spelling =>
        match binaryOperators.lookup spelling with
        | some tightness => return (spelling, tightness)
        | none => failure
      | .word name =>
        if name == "instanceof" || name == "in" then return (name, 8) else failure
      | _ => failure)
  guard (least ≤ tightness)
  return (spelling, tightness)

/-- The operators and operands behind a first operand, as far as they bind at least as tightly as
given. -/
def binaryRest (operand : Reader Expression) :
    (limit : Nat) → (least : Nat) → Expression → Reader Expression
  | 0, _, left => pure left
  | limit + 1, least, left =>
    (do
      let (operator, tightness) ← binaryOperator least
      let first ← operand
      let right ← binaryRest operand limit (if tightness = 12 then 12 else tightness + 1) first
      binaryRest operand limit least (.binary left operator right))
    <|> (do
      guard (least ≤ 8)
      let _ ← keywordInLine "as"
      let type ← (do let _ ← keyword "const"; return none) <|> (some <$> typeTree limit)
      binaryRest operand limit least (.cast left type))
    <|> (do
      guard (least ≤ 8)
      let _ ← keywordInLine "satisfies"
      binaryRest operand limit least (.satisfies left (← typeTree limit)))
    <|> pure left

/-- The marks that assign. -/
def assignments : List Text :=
  ["=", "+=", "-=", "*=", "/=", "%=", "**=", "<<=", "&=", "|=", "^=", "&&=", "||=", "??="].map
    Text.ofString

/-- An expression whose parts are read by the given readers. -/
def wholeExpression (expression : Reader Expression) (statement : Reader Statement) (limit : Nat) :
    Reader Expression :=
  (do return .function (← arrowFunction expression statement limit))
  <|> (do
    let operand := operand expression statement limit
    let left ← binaryRest operand limit 1 (← operand)
    (do
      let _ ← mark "?"
      let whenTrue ← expression
      let _ ← mark ":"
      return .conditional left whenTrue (← expression))
    <|> (do
      let token ← next
      match token.lexeme with
      | .mark spelling =>
        guard (assignments.contains spelling)
        return .assign left spelling (← expression)
      | _ => failure)
    <|> pure left)

end Turnstile.Source.Reader
