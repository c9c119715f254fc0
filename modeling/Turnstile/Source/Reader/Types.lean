import Turnstile.Number.Numeral
import Turnstile.Source.Reader

/-! # Reading types

* **`Reader.typeTree`** reads a type: a function type, or a union of intersections of operands,
  perhaps chosen by a condition.
* **`Reader.callShape`** reads parameters and a result, **`Reader.typeFormals`** type parameters.
* **`Reader.pattern`** reads what a value is bound to. -/

namespace Turnstile.Source.Reader

/-- The value of a numeral. -/
def numeralValue (spelling : Text) : Number := Numeral.number spelling

/-- The value of an integer literal. -/
def integerValue (spelling : Text) : Int := (Numeral.integer? spelling).getD 0

/-- Names with points between them, behind the first one. -/
def path : (limit : Nat) → (first : Text) → Reader (List Text)
  | 0, first => pure [first]
  | limit + 1, first => do
    match ← optionally (do let _ ← mark "."; word) with
    | some (name, _) => return first :: (← path limit name)
    | none => return [first]

/-- Type arguments in angle brackets; none if there are no brackets. -/
def typeArguments (type : Reader TypeTree) (limit : Nat) : Reader (List TypeTree) := do
  if ← has (mark "<") then itemsUntil ">" [","] type limit else return []

/-- A type behind a colon, if there is a colon. -/
def typeBehindColon (type : Reader TypeTree) : Reader (Option TypeTree) := do
  if ← has (mark ":") then return some (← type) else return none

/-- A word that says how a type parameter is used, in front of its name. -/
def variance : Reader Unit := do
  let _ ← keyword "in" <|> keyword "out"
  guard (← sees word)

/-- A type parameter. -/
def typeFormal (type : Reader TypeTree) : Reader TypeFormal := do
  let isConstant ← has (do let _ ← keyword "const"; guard (← sees word))
  let _ ← optionally variance
  let _ ← optionally variance
  let (name, site) ← word
  let bound ← optionally (do let _ ← keyword "extends"; type)
  let default ← optionally (do let _ ← mark "="; type)
  return ⟨site, name, isConstant, bound, default⟩

/-- Type parameters in angle brackets; none if there are no brackets. -/
def typeFormals (type : Reader TypeTree) (limit : Nat) : Reader (List TypeFormal) := do
  if ← has (mark "<") then itemsUntil ">" [","] (typeFormal type) limit else return []

/-- The name of a member: a word, a quoted text or a numeral. -/
def plainMemberName : Reader (Text × Site) := do
  let token ← next
  match token.lexeme with
  | .word name => return (name, token.site)
  | .text value => return (value, token.site)
  | .number spelling => return ((numeralValue spelling).toText, token.site)
  | _ => failure

/-- The name of a member in brackets that stands for itself: a quoted text, or a symbol that is
always there. -/
def bracketedMemberName : Reader (Text × Site) := do
  let start ← mark "["
  let name ←
    (do return (← quoted).1)
    <|> (do
      let _ ← keyword "Symbol"
      let _ ← mark "."
      let (name, _) ← word
      return ("[Symbol." : Text) ++ name ++ ("]" : Text))
  let _ ← mark "]"
  return (name, start.site)

/-- The name of a member, with its site. -/
def memberName : Reader (Text × Site) := plainMemberName <|> bracketedMemberName

/-! ## Patterns -/

/-- The name of a member, or an expression in brackets that gives it. -/
def memberKey (expression : Reader Expression) : Reader MemberName :=
  (do
    let (name, site) ← memberName
    return .known site name)
  <|> (do
    let start ← mark "["
    let key ← expression
    let _ ← mark "]"
    return .computed start.site key)

/-- What stands for a missing part, if anything does. -/
def defaultValue (expression : Reader Expression) : Reader (Option Expression) := do
  if ← has (mark "=") then some <$> expression else return none

/-- **What a value is bound to**: a name, or names for its parts; nested at most as deep as the
limit. -/
def pattern (expression : Reader Expression) : (limit : Nat) → Reader Pattern
  | 0 => failure
  | limit + 1 =>
    let whole : Reader Pattern := pattern expression limit
    let rest : Reader PatternPart := do
      let _ ← mark "..."
      return .rest (← whole)
    let member : Reader PatternPart :=
      rest
      <|> (do
        let key ← memberKey expression
        let _ ← mark ":"
        let pattern ← whole
        return .property key false pattern (← defaultValue expression))
      <|> (do
        let (name, site) ← word
        return .property (.known site name) true (.name site name) (← defaultValue expression))
    let element : Reader PatternPart :=
      (do
        guard (← seesMark [","])
        return .hole)
      <|> rest
      <|> (do
        let pattern ← whole
        return .element pattern (← defaultValue expression))
    (do
      let (name, site) ← word
      return .name site name)
    <|> (do
      let start ← mark "\x7b"
      return .record start.site (← itemsUntil "\x7d" [","] member limit))
    <|> (do
      let start ← mark "["
      return .array start.site (← itemsUntil "]" [","] element limit))

mutual

/-- A pattern as it is written, without what stands for missing parts. -/
def shownPattern : Pattern → Text
  | .name _ own => own
  | .record _ parts =>
    if parts.isEmpty then "\x7b\x7d" else "\x7b " ++ Text.join ", " (shownParts parts) ++ " \x7d"
  | .array _ parts => "[" ++ Text.join ", " (shownParts parts) ++ "]"

/-- Parts as they are written. -/
def shownParts : List PatternPart → List Text
  | [] => []
  | .property key isShort pattern _ :: rest =>
    ((if isShort then [] else key.text?.getD [] ++ (": " : Text)) ++ shownPattern pattern)
      :: shownParts rest
  | .element pattern _ :: rest => shownPattern pattern :: shownParts rest
  | .hole :: rest => [] :: shownParts rest
  | .rest pattern :: others => ("..." ++ shownPattern pattern) :: shownParts others

end

/-- A parameter, and what it is bound to. -/
def formal (type : Reader TypeTree) (expression : Reader Expression) (limit : Nat) :
    Reader (Formal × Pattern) := do
  let start ← peek
  let isRest ← has (mark "...")
  let pattern ← pattern expression limit
  let isOptional ← has (mark "?")
  let type ← typeBehindColon type
  let site := if isRest then (start.map (·.site)).getD pattern.site else pattern.site
  return (⟨site, pattern.name?, shownPattern pattern, isOptional, isRest, type⟩, pattern)

/-- The result type of a call: a type, or what is said about a parameter. -/
def resultType (type : Reader TypeTree) : Reader TypeTree :=
  (do
    let _ ← keyword "asserts"
    let (subject, _) ← word
    guard (subject ≠ Text.ofString "is")
    let type ← optionally (do let _ ← keywordInLine "is"; type)
    return .predicate true subject type)
  <|> (do
    let (subject, _) ← word
    let _ ← keywordInLine "is"
    return .predicate false subject (some (← type)))
  <|> type

/-- The parameters of a call and its result behind a given mark; without the mark there is no
result. -/
def callShape (type : Reader TypeTree) (resultMark : Text) (limit : Nat) : Reader CallShape := do
  let typeFormals ← typeFormals type limit
  let _ ← mark "("
  let formals ← itemsUntil ")" [","] (formal type failure limit) limit
  let result ← if ← has (mark resultMark) then some <$> resultType type else pure none
  return ⟨typeFormals, formals.map (·.1), result⟩

/-- A function type: a call shape with an arrow. -/
def functionType (type : Reader TypeTree) (limit : Nat) : Reader TypeTree := do
  let isAbstract ← has (do let _ ← keyword "abstract"; guard (← sees (keyword "new")))
  let constructs ← has (keyword "new")
  let shape ← callShape type "=>" limit
  guard shape.result.isSome
  return if constructs then .construct isAbstract shape else .function shape

/-- Whether a word stands in front of a member and is not its name. -/
def memberWord (name : Text) : Reader Bool :=
  has (do let _ ← keyword name; guard (← sees memberName))

/-- A member of a record type behind its modifiers. -/
def namedMember (type : Reader TypeTree) (limit : Nat) : Reader TypeMember := do
  let isReadonly ← memberWord "readonly"
  let reads ← memberWord "get"
  let writes ← memberWord "set"
  let (name, site) ← memberName
  let isOptional ← has (mark "?")
  if !isReadonly && (← sees (mark "(" <|> mark "<")) then
    let shape ← callShape type ":" limit
    if reads then return .property site name false false shape.result
    else if writes then return .property site name false false (shape.formals.head?.bind (·.type))
    else return .method site name isOptional shape
  else return .property site name isOptional isReadonly (← typeBehindColon type)

/-- A member of a record type. -/
def typeMember (type : Reader TypeTree) (limit : Nat) : Reader TypeMember :=
  (do
    let _ ← keyword "new"
    return .construct (← callShape type ":" limit))
  <|> (do return .call (← callShape type ":" limit))
  <|> (do
    let isReadonly ← has (keyword "readonly")
    let _ ← mark "["
    let (name, _) ← word
    let _ ← mark ":"
    let key ← type
    let _ ← mark "]"
    let _ ← mark ":"
    return .index name isReadonly key (← type))
  <|> namedMember type limit

/-- A sign that puts a property of members in or takes it away, with the mark or word for it. -/
def signed {α : Type} (reader : Reader α) : Reader (Option Bool) :=
  (do let _ ← mark "-"; let _ ← reader; return some false)
  <|> (do let _ ← optionally (mark "+"); let _ ← reader; return some true)
  <|> pure none

/-- A record with a member for each key of a type, behind the opening brace. -/
def mappedType (type : Reader TypeTree) : Reader TypeTree := do
  let isReadonly ← signed (keyword "readonly")
  let _ ← mark "["
  let (name, site) ← word
  let _ ← keyword "in"
  let keys ← type
  let renamed ← optionally (do let _ ← keyword "as"; type)
  let _ ← mark "]"
  let isOptional ← signed (mark "?")
  let value ← typeBehindColon type
  let _ ← optionally (mark ";")
  let _ ← mark "\x7d"
  return .mapped ⟨site, name, false, some keys, none⟩ renamed isOptional isReadonly value

/-- An element of a tuple type. -/
def tupleItem (type : Reader TypeTree) : Reader TupleItem :=
  (do
    let isRest ← has (mark "...")
    let (label, _) ← word
    let isOptional ← has (mark "?")
    let _ ← mark ":"
    return ⟨some label, isOptional, isRest, ← type⟩)
  <|> (do
    let isRest ← has (mark "...")
    let type ← type
    let isOptional ← has (mark "?")
    return ⟨none, isOptional, isRest, type⟩)

/-- A module named inside a type, behind its keyword. -/
def importedType (isValue : Bool) (type : Reader TypeTree) (limit : Nat) : Reader TypeTree := do
  let _ ← mark "("
  let (name, site) ← quoted
  let _ ← optionally (do let _ ← mark ","; type)
  let _ ← mark ")"
  let path ← path limit []
  return .imported ⟨site, name⟩ isValue (path.drop 1) (← typeArguments type limit)

/-- A type reference that starts with the given name. -/
def typeReference (type : Reader TypeTree) (limit : Nat) (name : Text) (site : Site) :
    Reader TypeTree := do
  if name == "typeof" then
    let (first, site) ← word
    if first == "import" then importedType true type limit
    else
      let path ← path limit first
      let arguments ← (do
        guard !((← peek).map (·.opensLine)).getD true
        typeArguments type limit) <|> pure []
      return .valueType site path arguments
  else if name == "true" then return .literal (.boolean true)
  else if name == "false" then return .literal (.boolean false)
  else if name == "import" then importedType false type limit
  else
    let path ← path limit name
    return .name site path (← typeArguments type limit)

/-- The type of a template that stands at a site. One without holes is the text that it shows. -/
def templateType (type : Reader TypeTree) (site : Site) (spelling : Text) : TypeTree :=
  let texts := Template.texts spelling
  let holes := (Template.holes site spelling).map fun (start, code) =>
    ((type (tokensOf false (pieces start code))).map (·.1)).getD .other
  if holes.isEmpty then .literal (.text texts.flatten) else .template texts holes

/-- An operand without what may stand behind it. -/
def primaryType (type : Reader TypeTree) (limit : Nat) : Reader TypeTree := do
  let token ← next
  match token.lexeme with
  | .word name => typeReference type limit name token.site
  | .text value => return .literal (.text value)
  | .number spelling => return .literal (.number (numeralValue spelling))
  | .integer spelling => return .literal (.integer (integerValue spelling))
  | .template spelling => return templateType type token.site spelling
  | .mark spelling =>
    if spelling == "-" then
      let token ← next
      match token.lexeme with
      | .number spelling => return .literal (.number (numeralValue spelling).neg)
      | .integer spelling => return .literal (.integer (-integerValue spelling))
      | _ => failure
    else if spelling == "(" then
      let inner ← type
      let _ ← mark ")"
      return inner
    else if spelling == "[" then return .tuple (← itemsUntil "]" [","] (tupleItem type) limit)
    else if spelling == "\x7b" then
      mappedType type
        <|> (do return .record (← itemsUntil "\x7d" [";", ","] (typeMember type limit) limit))
        <|> (do modify (skipBraces 0); return .other)
    else failure
  | _ => failure

/-- An operand with the brackets behind it. -/
def typeSuffixes (type : Reader TypeTree) : (limit : Nat) → TypeTree → Reader TypeTree
  | 0, operand => pure operand
  | limit + 1, operand => do
    let opened ← peek
    if (opened.map (·.opensLine)).getD true then return operand
    else if ← has (mark "[") then
      if ← has (mark "]") then typeSuffixes type limit (.array operand)
      else
        let index ← type
        let _ ← mark "]"
        typeSuffixes type limit (.indexed operand index)
    else return operand

/-- An operand behind its operators. -/
def typeOperand (type : Reader TypeTree) : (limit : Nat) → Reader TypeTree
  | 0 => failure
  | limit + 1 => do
    let plain := do typeSuffixes type limit (← primaryType type limit)
    let behind (operator : Text) : Reader TypeTree := do
      let _ ← keyword operator
      typeOperand type limit
    (do return .keysOf (← behind "keyof"))
      <|> (do return .readonly (← behind "readonly"))
      <|> (do
        let _ ← keyword "unique"
        typeOperand type limit)
      <|> (do
        let _ ← keyword "infer"
        let (name, site) ← word
        let bound ← optionally (do
          let _ ← keyword "extends"
          let bound ← typeOperand type limit
          guard !(← sees (mark "?"))
          return bound)
        return .found ⟨site, name, false, bound, none⟩)
      <|> plain

/-- Operands with a mark between them, which may also stand in front. -/
def typeSeries (separator : Text) (operand : Reader TypeTree)
    (combine : List TypeTree → TypeTree) (limit : Nat) : Reader TypeTree := do
  let _ ← optionally (mark separator)
  match ← itemsBetween separator operand limit with
  | [single] => return single
  | several => return combine several

/-- What a type is chosen by, behind the type that is asked about. -/
def typeCondition (type operand : Reader TypeTree) (checked : TypeTree) : Reader TypeTree := do
  let _ ← keywordInLine "extends"
  let wanted ← operand
  let _ ← mark "?"
  let whenTrue ← type
  let _ ← mark ":"
  return .conditional checked wanted whenTrue (← type)

/-- A type whose parts are read by the given reader. -/
def wholeType (type : Reader TypeTree) (limit : Nat) : Reader TypeTree :=
  functionType type limit
  <|> (do
    let operand := typeOperand type limit
    let intersection := typeSeries "&" operand .intersection limit
    let union := typeSeries "|" intersection .union limit
    let first ← union
    typeCondition type (functionType type limit <|> union) first <|> pure first)

/-- **A type**, nested at most as deep as the limit. -/
def typeTree : (limit : Nat) → Reader TypeTree
  | 0 => failure
  | limit + 1 => wholeType (typeTree limit) limit

end Turnstile.Source.Reader
