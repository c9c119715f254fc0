import Turnstile.Source.Reader.Expressions

/-! # Reading statements and sources

* **`Reader.wholeStatement`** reads a statement whose parts are read by given readers.
* **`Reader.expression`** and **`Reader.statement`** tie both together, nested as deep as a limit.
* **`SourceTree.ofText`** reads a whole source. What no reader understands is left out, up to the
  next line. -/

namespace Turnstile.Source.Reader

/-- The end of a statement: a semicolon, if there is one. -/
def ending : Reader Unit := do
  let _ ← optionally (mark ";")

/-- A variable with its type and first value. -/
def declarator (expression : Reader Expression) (limit : Nat) : Reader Declarator := do
  let pattern ← pattern expression limit
  let _ ← optionally (mark "!")
  let type ← typeBehindColon (typeTree limit)
  return ⟨pattern, type, ← defaultValue expression⟩

/-- The word that declares variables. -/
def variableKind : Reader VariableKind := do
  let (name, _) ← word
  if name == "const" then return .constant
  else if name == "let" then return .block
  else if name == "var" then return .function
  else failure

/-- A declaration of variables in a statement that starts at a site. -/
def bindings (expression : Reader Expression) (limit : Nat) (modifiers : Modifiers) (site : Site) :
    Reader Statement := do
  let kind ← variableKind
  guard !(← sees (keyword "enum"))
  let declarators ← itemsBetween "," (declarator expression limit) limit
  ending
  return .bindings modifiers kind site declarators

/-- A name to be handed out, and the name that it gets. -/
def exportedName : Reader ExportedName := do
  let _ ← optionally (do let _ ← keyword "type"; guard !(← seesMark [",", "\x7d"]))
  let (name, site) ← word <|> quoted
  match ← optionally (do let _ ← keyword "as"; word <|> quoted) with
  | some (exported, _) => return ⟨site, name, exported⟩
  | none => return ⟨site, name, name⟩

/-- A name to be brought in, and the name that it gets. -/
def importedName : Reader ImportedName := do
  let start ← peek
  let _ ← optionally (do let _ ← keyword "type"; guard !(← seesMark [",", "\x7d"]))
  let (imported, site) ← word <|> quoted
  let start := (start.map (·.site)).getD site
  match ← optionally (do let _ ← keyword "as"; word) with
  | some (name, nameSite) => return ⟨start, imported, name, nameSite⟩
  | none => return ⟨start, imported, imported, site⟩

/-- The module that names come from. -/
def moduleSource : Reader (Text × Site) := do
  let _ ← keyword "from"
  quoted

/-- Another name for a module, or for what a path of names stands for, behind its keyword. -/
def shortcut (limit : Nat) (modifiers : Modifiers) (start : Site) : Reader Statement := do
  let (name, site) ← word
  let _ ← mark "="
  (do
    let _ ← keyword "require"
    let _ ← mark "("
    let (moduleName, moduleSite) ← quoted
    let _ ← mark ")"
    ending
    return .imports { site := start, moduleSite, moduleName, default := none
                      space := some (name, site), names := [] })
  <|> (do
    let (first, _) ← word
    let path ← path limit first
    ending
    return .shortcut modifiers site name path)

/-- An import. -/
def importStatement (limit : Nat) : Reader Statement := do
  let start ← keyword "import"
  let bare : Reader ImportTree := do
    let (moduleName, moduleSite) ← quoted
    return { site := start.site, moduleSite, moduleName, default := none, space := none, names := [] }
  let clause : Reader ImportTree := do
    let _ ← optionally (do
      let _ ← keyword "type"
      guard !(← sees (keyword "from"))
      guard !(← seesMark [","]))
    let default ← optionally word
    let _ ← optionally (mark ",")
    let space ← optionally (do
      let _ ← mark "*"
      let _ ← keyword "as"
      word)
    let names ← (do
      let _ ← mark "\x7b"
      itemsUntil "\x7d" [","] importedName limit) <|> pure []
    let (moduleName, moduleSite) ← moduleSource
    return { site := start.site, moduleSite, moduleName, default, space, names }
  (do
    let tree ← bare <|> clause
    let _ ← optionally (do
      let _ ← keyword "with"
      braces)
    ending
    return .imports tree)
  <|> shortcut limit default start.site

/-- What is handed out without being declared in place. -/
def exportStatement (expression : Reader Expression) (limit : Nat) : Reader Statement := do
  let _ ← keyword "export"
  (do
    let token ← keyword "default"
    let value ← expression
    ending
    return .exportDefault token.site value)
  <|> (do
    let start ← mark "="
    let value ← expression
    ending
    return .exportDefault start.site value)
  <|> (do
    let start ← keyword "import"
    shortcut limit { isExported := true, isDefault := false, isDeclared := false } start.site)
  <|> (do
    let _ ← optionally (keyword "type")
    let _ ← mark "*"
    let name ← optionally (do let _ ← keyword "as"; word <|> quoted)
    let (source, site) ← moduleSource
    ending
    return .exportAll (name.map (·.1)) source site)
  <|> (do
    let _ ← optionally (keyword "type")
    let _ ← mark "\x7b"
    let names ← itemsUntil "\x7d" [","] exportedName limit
    let source ← optionally moduleSource
    ending
    return .exports names source)

/-- The words in front of a declaration. -/
def modifiers : (limit : Nat) → Reader Modifiers
  | 0 => pure default
  | limit + 1 =>
    (do
      let _ ← keyword "export"
      return { ← modifiers limit with isExported := true })
    <|> (do
      let _ ← keyword "default"
      return { ← modifiers limit with isDefault := true })
    <|> (do
      let _ ← keyword "declare"
      guard (← sees word)
      return { ← modifiers limit with isDeclared := true })
    <|> pure default

/-- A type alias behind its modifiers. -/
def aliasStatement (limit : Nat) (modifiers : Modifiers) : Reader Statement := do
  let _ ← keyword "type"
  let (name, site) ← word
  let typeFormals ← typeFormals (typeTree limit) limit
  let _ ← mark "="
  let type ← typeTree limit
  ending
  return .alias modifiers site name typeFormals type

/-- An interface behind its modifiers. -/
def interfaceStatement (limit : Nat) (modifiers : Modifiers) : Reader Statement := do
  let _ ← keyword "interface"
  let (name, site) ← word
  let typeFormals ← typeFormals (typeTree limit) limit
  let bases ← (do
    let _ ← keyword "extends"
    itemsBetween "," (typeTree limit) limit) <|> pure []
  let members ← (do
    let _ ← mark "\x7b"
    itemsUntil "\x7d" [";", ","] (typeMember (typeTree limit) limit) limit)
    <|> (do braces; return [])
  return .interface modifiers site name typeFormals bases members

/-- A class behind its modifiers. -/
def classStatement (expression : Reader Expression) (statement : Reader Statement) (limit : Nat)
    (modifiers : Modifiers) (decorators : List Expression) : Reader Statement := do
  let isAbstract ← has (do let _ ← keyword "abstract"; guard (← sees (keyword "class")))
  return .class modifiers (← classTree expression statement limit isAbstract decorators)

/-- An enumeration behind its modifiers. -/
def enumeration (expression : Reader Expression) (limit : Nat) (modifiers : Modifiers) :
    Reader Statement := do
  let _ ← optionally (keyword "const")
  let _ ← keyword "enum"
  let (name, site) ← word
  let _ ← mark "\x7b"
  let members ← itemsUntil "\x7d" [","] (do
    let (name, site) ← memberName
    return ⟨site, name, ← defaultValue expression⟩) limit
  return .enumeration modifiers site name members

/-- A namespace with names inside one another, whose members are given: the inner ones are handed
out by the outer ones. -/
def nested (modifiers : Modifiers) (first : Text × Site) (inner : List (Text × Site))
    (body : List Statement) : Statement :=
  let handedOut : Modifiers := { modifiers with isExported := true, isDefault := false }
  match inner with
  | [] => .space modifiers first.2 first.1 body
  | next :: rest => .space modifiers first.2 first.1 [nested handedOut next rest body]

/-- A namespace behind its modifiers, or what is declared for other modules. -/
def space (statement : Reader Statement) (limit : Nat) (modifiers : Modifiers) : Reader Statement :=
  (do
    let _ ← keyword "global"
    return .ambient none (← block statement limit))
  <|> (do
    let _ ← keyword "module"
    let (name, _) ← quoted
    (do return .ambient (some name) (← block statement limit))
      <|> (do ending; return .ambient (some name) []))
  <|> (do
    let _ ← keyword "namespace" <|> keyword "module"
    let first ← word
    let inner ← (do
      let _ ← mark "."
      itemsBetween "." word limit) <|> pure []
    return nested modifiers first inner (← block statement limit))

/-- A declaration with its modifiers. -/
def declaration (expression : Reader Expression) (statement : Reader Statement) (limit : Nat) :
    Reader Statement := do
  let start ← peek
  let before ← decorators expression limit
  let modifiers ← modifiers limit
  let behind ← decorators expression limit
  (do
    let tree ← functionTree expression statement limit
    ending
    return .function modifiers tree)
  <|> aliasStatement limit modifiers
  <|> interfaceStatement limit modifiers
  <|> classStatement expression statement limit modifiers (before ++ behind)
  <|> enumeration expression limit modifiers
  <|> space statement limit modifiers
  <|> bindings expression limit modifiers ((start.map (·.site)).getD default)

/-- What a loop goes through, up to the closing bracket: elements, or else keys. -/
def passedThrough (expression : Reader Expression) (limit : Nat) : Reader (Bool × Expression) := do
  let isOver ← (do let _ ← keyword "of"; return true) <|> (do let _ ← keyword "in"; return false)
  let value ← sequence expression limit
  let _ ← mark ")"
  return (isOver, value)

/-- A `for` loop behind its opening bracket. -/
def loopRest (expression : Reader Expression) (statement : Reader Statement) (limit : Nat)
    (isAsync : Bool) : Reader Statement :=
  (do
    let kind ← variableKind
    let pattern ← pattern expression limit
    let _ ← typeBehindColon (typeTree limit)
    let (isOver, value) ← passedThrough expression limit
    return .each isOver isAsync kind pattern value (← statement))
  <|> (do
    let target ← suffixes expression true limit (← primary expression statement limit)
    let (isOver, value) ← passedThrough expression limit
    return .eachInto isOver isAsync target value (← statement))
  <|> (do
    let start ← peek
    let first ←
      bindings expression limit default ((start.map (·.site)).getD default)
      <|> (do
        let first ← sequence expression limit
        ending
        return .evaluate first)
      <|> (do ending; return .empty)
    let condition ← optionally (sequence expression limit)
    let _ ← mark ";"
    let step ← optionally (sequence expression limit)
    let _ ← mark ")"
    return .loop [first] condition step (← statement))

/-- The statements behind a test of a choice, up to the next test or the closing brace. -/
def choiceBody (statement : Reader Statement) : (limit : Nat) → Reader (List Statement)
  | 0 => pure []
  | limit + 1 => do
    if ← sees (keyword "case" <|> keyword "default" <|> mark "\x7d") then return []
    if (← peek).isNone then return []
    let first ← statement
    return first :: (← choiceBody statement limit)

/-- The tests and bodies of a choice, up to its closing brace. -/
def choices (expression : Reader Expression) (statement : Reader Statement) :
    (limit : Nat) → Reader (List Case)
  | 0 => failure
  | limit + 1 => do
    if ← has (mark "\x7d") then return []
    let test ←
      (do let _ ← keyword "case"; some <$> sequence expression limit) <|>
        (do let _ ← keyword "default"; return none)
    let _ ← mark ":"
    let body ← choiceBody statement limit
    return ⟨test, body⟩ :: (← choices expression statement limit)

/-- What handles the failure of code: what it is bound to, and the code for it. -/
def handler (expression : Reader Expression) (statement : Reader Statement) (limit : Nat) :
    Reader (List Binder × List Statement) := do
  let _ ← keyword "catch"
  let caught ← optionally (do
    let _ ← mark "("
    let caught ← binder expression limit
    let _ ← mark ")"
    return caught)
  return (caught.toList, ← block statement limit)

/-- A statement that starts with a keyword of its own. -/
def controlStatement (expression : Reader Expression) (statement : Reader Statement) (limit : Nat) :
    Reader Statement := do
  let (name, site) ← word
  let condition : Reader Expression := do
    let _ ← mark "("
    let e ← sequence expression limit
    let _ ← mark ")"
    return e
  if name == "return" then
    let value ← optionally (do
      guard !((← peek).map (·.opensLine)).getD true
      sequence expression limit)
    ending
    return .leave site value
  else if name == "if" then
    let c ← condition
    let whenTrue ← statement
    let whenFalse ← optionally (do let _ ← keyword "else"; statement)
    return .branch c whenTrue whenFalse.toList
  else if name == "while" then
    let c ← condition
    return .loop [] (some c) none (← statement)
  else if name == "do" then
    let body ← statement
    let _ ← keyword "while"
    let c ← condition
    ending
    return .loopOnce body c
  else if name == "for" then
    let isAsync ← has (keyword "await")
    let _ ← mark "("
    loopRest expression statement limit isAsync
  else if name == "throw" then
    let value ← sequence expression limit
    ending
    return .raise value
  else if name == "try" then
    let body ← block statement limit
    let handler ← optionally (handler expression statement limit)
    let final ← optionally (do let _ ← keyword "finally"; block statement limit)
    let (caught, handling) := handler.getD ([], [])
    return .attempt body handler.isSome caught handling (final.getD [])
  else if name == "switch" then
    let value ← condition
    let _ ← mark "\x7b"
    let cases ← choices expression statement limit
    return .choose value cases
  else if name == "break" || name == "continue" then
    let label ← optionally (do
      guard !((← peek).map (·.opensLine)).getD true
      word)
    ending
    return .jump (name == "continue") (label.map (·.1))
  else if name == "debugger" then
    ending
    return .empty
  else if reserved.contains name then failure
  else
    let _ ← mark ":"
    return .labelled name (← statement)

/-- What is left of a line that no reader understands. -/
def unreadLine : Reader Statement := do
  let _ ← next
  modify fun tokens => tokens.dropWhile fun token => !token.opensLine
  return .empty

/-- A statement whose parts are read by the given readers. -/
def wholeStatement (expression : Reader Expression) (statement : Reader Statement) (limit : Nat) :
    Reader Statement :=
  (do let _ ← mark ";"; return .empty)
  <|> (do return .block (← block statement limit))
  <|> controlStatement expression statement limit
  <|> importStatement limit
  <|> declaration expression statement limit
  <|> exportStatement expression limit
  <|> (do
    let e ← sequence expression limit
    ending
    return .evaluate e)
  <|> unreadLine

mutual

/-- **An expression** without commas, nested at most as deep as the limit. -/
def expression : (limit : Nat) → Reader Expression
  | 0 => failure
  | limit + 1 => wholeExpression (expression limit) (statement limit) limit

/-- **A statement**, nested at most as deep as the limit. -/
def statement : (limit : Nat) → Reader Statement
  | 0 => failure
  | limit + 1 => wholeStatement (expression limit) (statement limit) limit

end

/-- Statements up to the end, at most as many as the limit. -/
def statements : (limit : Nat) → List Token → List Statement
  | 0, _ => []
  | limit + 1, tokens =>
    match statement (tokens.length + 1) tokens with
    | some (first, rest) => first :: statements limit rest
    | none => []

end Turnstile.Source.Reader

namespace Turnstile.Source

/-- How many more braces are opened than closed. -/
def openBraces (tokens : List Token) : Nat :=
  tokens.foldl (fun count token =>
    if token.lexeme = .mark "\x7b" then count + 1
    else if token.lexeme = .mark "\x7d" then count - 1
    else count) 0

/-- Whether a comment asks not to look for faults. -/
def isUncheckedMark (comment : Text) : Bool :=
  let body : Text := (comment.dropWhile (· = 0x2F)).dropWhile Text.isBlank
  let mark : Text := "@ts-nocheck"
  let behind : Text := body.drop mark.length
  comment.startsWith "//" && !comment.startsWith "////" && body.startsWith mark
    && (behind.head?.map fun u => Text.isBlank u || u = Text.unit ':').getD true

/-- The comments in front of the first token. -/
def openingComments (text : Text) : List Text :=
  ((sourcePieces text).takeWhile fun piece =>
    match piece.lexeme with
    | .blank => true
    | .newline => true
    | .comment _ => true
    | _ => false).filterMap fun piece =>
      match piece.lexeme with
      | .comment spelling => some spelling
      | _ => none

/-- **A source read.** -/
def SourceTree.ofText (text : Text) : SourceTree :=
  let tokens := tokens text
  { statements := Reader.statements tokens.length tokens
    unclosed := if openBraces tokens = 0 then none else some (Site.start.after text)
    comments := Source.comments text
    isUnchecked := (openingComments text).any isUncheckedMark
    size := tokens.length }

end Turnstile.Source
