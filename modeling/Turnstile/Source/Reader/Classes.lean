import Turnstile.Source.Reader.Functions

/-! # Reading classes

* **`Reader.classTree`** reads a class from its keyword on.
* **`Reader.classMember`** reads one of its members.

The readers take those of the expressions and the statements nested in what they read. -/

namespace Turnstile.Source.Reader

/-- The words that may stand in front of a member of a class. -/
def memberWords : List Text :=
  ["public", "private", "protected", "static", "readonly", "abstract", "override", "declare",
   "accessor"].map Text.ofString

/-- Whether the name of a member, or what may stand in front of one, comes next. -/
def seesMember : Reader Bool :=
  sees ((do let _ ← plainMemberName) <|> (do let _ ← mark "[" <|> mark "*"))

/-- The words in front of a member of a class, at most as many as the limit. -/
def memberModifiers : (limit : Nat) → Reader (List Text)
  | 0 => pure []
  | limit + 1 => (do
    let (name, _) ← word
    guard (memberWords.contains name)
    guard (← seesMember)
    return name :: (← memberModifiers limit)) <|> pure []

/-- What the words in front of a member say. -/
def modifiersOf (words : List Text) (isOptional : Bool) : MemberModifiers :=
  { visibility := visibilityOf words
    isStatic := words.contains ("static" : Text)
    isReadonly := words.contains ("readonly" : Text)
    isAbstract := words.contains ("abstract" : Text)
    isDeclared := words.contains ("declare" : Text)
    isOptional }

/-- Whether a word stands in front of a member and is not its name. -/
def standsInFront (name : Text) : Reader Bool :=
  has (do let _ ← keyword name; guard (← seesMember))

/-- A method, a half of an accessor or the constructor behind the words in front of it. -/
def methodMember (expression : Reader Expression) (statement : Reader Statement) (limit : Nat)
    (words : List Text) (decorators : List Expression) : Reader ClassMember := do
  let reads ← standsInFront "get"
  let writes ← standsInFront "set"
  let isAsync ← standsInFront "async"
  let isGenerator ← has (mark "*")
  let key ← memberKey expression
  let isOptional ← has (mark "?")
  guard (← sees (mark "(" <|> mark "<"))
  let modifiers := modifiersOf words isOptional
  let kind : FunctionKind :=
    if reads then .getter
    else if writes then .setter
    else if key.text? = some "constructor" && !modifiers.isStatic then .constructor
    else .method
  let tree ←
    functionRest expression statement limit key.site key.text? kind isAsync isGenerator
  return .method modifiers decorators key tree

/-- A field behind the words in front of it. -/
def fieldMember (expression : Reader Expression) (limit : Nat) (words : List Text)
    (decorators : List Expression) : Reader ClassMember := do
  let key ← memberKey expression
  let isOptional ← has (mark "?")
  let _ ← optionally (mark "!")
  let type ← typeBehindColon (typeTree limit)
  let value ← defaultValue expression
  return .field (modifiersOf words isOptional) decorators key type value

/-- A member for all keys of a type behind the words in front of it. -/
def indexMember (limit : Nat) (words : List Text) : Reader ClassMember := do
  let _ ← mark "["
  let (name, _) ← word
  let _ ← mark ":"
  let key ← typeTree limit
  let _ ← mark "]"
  let _ ← mark ":"
  let type ← typeTree limit
  return .index (words.contains ("static" : Text))
    (.index name (words.contains ("readonly" : Text)) key type)

/-- A member of a class. -/
def classMember (expression : Reader Expression) (statement : Reader Statement) (limit : Nat) :
    Reader ClassMember :=
  (do
    let _ ← keyword "static"
    return .start (← block statement limit))
  <|> (do
    let decorators ← decorators expression limit
    let words ← memberModifiers limit
    indexMember limit words
      <|> methodMember expression statement limit words decorators
      <|> fieldMember expression limit words decorators)

/-- The members of a class up to its closing brace, or to the end. -/
def classMembers (expression : Reader Expression) (statement : Reader Statement) :
    (limit : Nat) → Reader (List ClassMember)
  | 0 => failure
  | limit + 1 => do
    if (← peek).isNone then return []
    if ← has (mark "\x7d") then return []
    if ← has (mark ";") then classMembers expression statement limit
    else
      let first ← classMember expression statement limit
      return first :: (← classMembers expression statement limit)

/-- What a class is based on, with the members and the calls behind it. -/
def baseSuffixes (expression : Reader Expression) : (limit : Nat) → Expression → Reader Expression
  | 0, base => pure base
  | limit + 1, base =>
    (do
      let _ ← mark "."
      let (name, site) ← word
      baseSuffixes expression limit (.member base site name false))
    <|> (do
      let arguments ← typeArguments (typeTree limit) limit
      let _ ← mark "("
      let values ← itemsUntil ")" [","] expression limit
      baseSuffixes expression limit (.call base arguments values false))
    <|> pure base

/-- What a class is based on. -/
def baseClass (expression : Reader Expression) (limit : Nat) : Reader Expression := do
  let start ← peek
  let site := (start.map (·.site)).getD default
  let first ←
    (do
      let _ ← mark "("
      let inner ← expression
      let _ ← mark ")"
      return Expression.group site inner)
    <|> (do
      let (name, site) ← word
      if name == "null" then return .null site
      else if name == "class" then failure
      else return .name site name)
  baseSuffixes expression limit first

/-- **A class** from its keyword on. -/
def classTree (expression : Reader Expression) (statement : Reader Statement) (limit : Nat)
    (isAbstract : Bool) (decorators : List Expression) : Reader ClassTree := do
  let start ← keyword "class"
  let named ← optionally (do
    let (name, site) ← word
    guard !([("extends" : Text), "implements"].contains name)
    return (name, site))
  let typeFormals ← typeFormals (typeTree limit) limit
  let base ← optionally (do
    let _ ← keyword "extends"
    let base ← baseClass expression limit
    return (base, ← typeArguments (typeTree limit) limit))
  let roles ← (do
    let _ ← keyword "implements"
    itemsBetween "," (typeTree limit) limit) <|> pure []
  let _ ← mark "\x7b"
  let members ← classMembers expression statement limit
  return { site := (named.map (·.2)).getD start.site
           name := named.map (·.1)
           isAbstract, typeFormals
           base := base.map (·.1)
           baseArguments := (base.map (·.2)).getD []
           roles, members, decorators }

end Turnstile.Source.Reader
