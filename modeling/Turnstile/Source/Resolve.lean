import Turnstile.Source.Derived

/-! # What written types mean

* **`Resolver.meaningOf`** resolves the names of a written type. An alias keeps its name where the
  type behind it is one that is put together; an alias of a type with a name or a keyword of its own
  is that type.
* An alias of a record or of a function is known by its name alone, and looked into where it is
  used. -/

namespace Turnstile.Source

/-- The type that a keyword stands for. -/
def keywordType? (name : Text) : Option SourceType :=
  if name == "any" then some .any
  else if name == "unknown" then some .unknown
  else if name == "never" then some .never
  else if name == "void" then some .void
  else if name == "undefined" then some .undefined
  else if name == "null" then some .null
  else if name == "string" then some .string
  else if name == "number" then some .number
  else if name == "bigint" then some .integer
  else if name == "boolean" then some .boolean
  else if name == "symbol" then some .symbol
  else if name == "object" then some .object
  else none

/-- Whether an alias keeps its name, from the type that is written behind it and what that means. -/
def keepsAlias : TypeTree → SourceType → Bool
  | .name _ _ [], .named _ _ (_ :: _) => true
  | .name _ _ [], _ => false
  | .valueType .., _ => false
  | .tuple [], _ => false
  | .union _, .boolean => true
  | .conditional .., .boolean => true
  | _, .union .. => true
  | _, .record _ => true
  | _, .callable _ => true
  | _, .constructable .. => true
  | _, .array .. => true
  | _, .tuple .. => true
  | _, .intersection _ => true
  | _, .alias .. => true
  | _, .named _ _ (_ :: _) => true
  | _, .deferred .. => true
  | _, _ => false

/-- Whether an alias is known by its name alone, from the type that is written behind it. -/
def isLooked : TypeTree → Bool
  | .record _ => true
  | .function _ => true
  | .construct .. => true
  | _ => false

/-- Whether an alias may lead back to itself with other arguments. -/
def isRepeated : TypeTree → Bool
  | .conditional .. => true
  | _ => false

/-- How often an alias may lead back to itself with other arguments. -/
def repeatedMost : Nat := 24

/-- How names with points between them are written. -/
def pathText (path : List Text) : Text := Text.join "." path

namespace Resolver

/-- The type that declarations stand for, with type arguments. -/
def declaredType (r : Resolver) (s outer : Scope) (name : Text) (declarations : List Declaration)
    (arguments : List SourceType) : SourceType :=
  let home := outer.homeOf declarations
  let inner := { outer with resolving := s.resolving, inferring := s.inferring, values := s.values }
  let filled (d : Declaration) : List SourceType :=
    (r.bindArguments inner (typeFormalsOf d) arguments).map (·.type)
  match declarations.find? (·.isType) with
  | some (.class tree) => .named home name (filled (.class tree))
  | some (.interface site formals bases members) =>
    let arguments := filled (.interface site formals bases members)
    let isArray := home = .always && name == "Array"
    let isSealed := home = .always && name == "ReadonlyArray"
    match arguments with
    | [element] =>
      if isArray || isSealed then .array isSealed element else .named home name arguments
    | arguments => .named home name arguments
  | some (.enumeration ..) =>
    .enumeration home name (enumValues (declarations.flatMap fun d =>
      match d with
      | .enumeration _ members => members
      | _ => []))
  | some (.alias site formals tree) =>
    let own := outer.home site
    let seen := (s.resolving.filter (· = own)).length
    let arguments := filled (.alias site formals tree)
    if isLooked tree || (seen ≠ 0 && !isRepeated tree) || repeatedMost < seen then
      .named home name arguments
    else
      let bound := r.bindArguments inner formals arguments
      let meaning := r.type { inner.within (.types bound) with resolving := own :: s.resolving } tree
      if keepsAlias tree meaning then .alias home name arguments meaning.meaning else meaning
  | _ => .other

/-- A text with its first unit changed. -/
def onFirst (change : Text → Text) (text : Text) : Text := change (text.take 1) ++ text.drop 1

/-- Lower letters as upper ones. -/
def toUpper (text : Text) : Text :=
  text.map fun u => if 0x61 ≤ u && u ≤ 0x7A then u - 0x20 else u

/-- A type whose texts are changed one by one. -/
def changingTexts (strict : Bool) (name : Text) (type : SourceType) (change : Text → Text) :
    SourceType :=
  if type.isOpen || type.isLike .string then .unresolved name [type]
  else
    .unionOf strict (type.alternatives.map fun one =>
      match one with
      | .literal (.text text) _ => .literal (.text (change text)) false
      | one => one)

/-- What a type comes to where it is waited for; several types keep the name of the rule. -/
def awaitedType (r : Resolver) (s : Scope) (type : SourceType) : SourceType :=
  match r.awaitedNamed s type with
  | .union members shown => .alias .always "Awaited" [type] (.union members shown)
  | single => single

/-- A standard type of which no members are known. -/
def knownType (r : Resolver) (s : Scope) (name : Text) (arguments : List SourceType) : SourceType :=
  match arguments with
  | [type] =>
    if name == "Awaited" then r.awaitedType s type
    else if name == "NoInfer" then type
    else if name == "Uppercase" then changingTexts s.strict name type toUpper
    else if name == "Lowercase" then changingTexts s.strict name type Text.toLower
    else if name == "Capitalize" then changingTexts s.strict name type (onFirst toUpper)
    else if name == "Uncapitalize" then changingTexts s.strict name type (onFirst Text.toLower)
    else .named .always name arguments
  | [element, _] =>
    if name == "FlatArray" then
      .unionOf s.strict (element.alternatives.flatMap fun one =>
        match (r.iterated? s one) with
        | some inner => inner.alternatives.map fun part =>
          match part.meaning with
          | .array _ deeper => deeper
          | _ => part
        | none => [one])
    else .named .always name arguments
  | _ => .named .always name arguments

/-- The member of an enumeration that a path of names stands for. -/
def enumMember? (s : Scope) (path : List Text) : Option SourceType :=
  match s.findPath .type path.dropLast with
  | some (.declared outer whole declarations) =>
    let all := declarations.flatMap fun d =>
      match d with
      | .enumeration _ members => members
      | _ => []
    let values := enumValues all
    (path.getLast?.bind fun name => (values.lookup name).map fun value =>
      .enumMember (outer.homeOf declarations) whole name value false values)
  | _ => none

/-- What names with points between them, and type arguments, stand for among types. What is in a
namespace goes by its own name alone, a member of an enumeration by both. -/
def reference (r : Resolver) (s : Scope) (path : List Text) (arguments : List SourceType) :
    SourceType :=
  let missing : SourceType := .unresolved (pathText path) arguments
  let keyword := match path, arguments with
    | [name], [] => keywordType? name
    | _, _ => none
  match keyword with
  | some type => type
  | none =>
    match if 1 < path.length then enumMember? s path else none with
    | some type => type
    | none =>
      match s.findPath .type path with
      | some (.type type) => type
      | some (.declared outer name declarations) =>
        if declarations.any (·.isType) then r.declaredType s outer name declarations arguments
        else missing
      | some .known => r.knownType s (path.getLastD []) arguments
      | _ => missing

/-- The type of the value that names with points between them stand for. -/
def valueAlong (r : Resolver) (s : Scope) : List Text → SourceType
  | [] => .other
  | first :: rest =>
    match s.find .value first with
    | some found => rest.foldl (r.memberType s) (r.found s found)
    | none =>
      match s.boundType? first with
      | some type => rest.foldl (r.memberType s) type
      | none => .other

/-- What names stand for in a module. -/
def importedType (r : Resolver) (s : Scope) (moduleName : Text) (isValue : Bool) (path : List Text)
    (arguments : List SourceType) : SourceType :=
  match s.program.moduleAt? s.path moduleName with
  | none => .other
  | some source =>
    match path with
    | [] => .moduleValue source
    | first :: rest =>
      let found := s.ofEntity (s.program.exported source first)
      if isValue then rest.foldl (r.memberType s) (r.found s found)
      else
        match rest.foldl (fun found name => s.member .type name found) found with
        | .declared outer name declarations => r.declaredType s outer name declarations arguments
        | _ => .unresolved (pathText path) arguments

/-- **What a written type means.** -/
def meaningOf (r : Resolver) (s : Scope) : TypeTree → SourceType
  | .name _ path arguments => r.reference s path (arguments.map (r.type s))
  | .literal value => .literal value false
  | .template texts holes => templated s.strict texts (holes.map (r.type s))
  | .array element => .array false (r.type s element)
  | .readonly type =>
    let type := r.type s type
    type.sealed?.getD type
  | .tuple items => tupleOf (items.map fun item =>
      let type := r.type s item.type
      ⟨item.label, item.isOptional, item.isRest,
        if item.isOptional then .orUndefined s.strict type else type⟩)
  | .function shape => .callable [r.callOf s shape]
  | .construct isAbstract shape => .constructable isAbstract (r.callOf s shape)
  | .record members => recordOf (members.map (r.memberOf s))
  | .union members => .unionOf s.strict (members.map (r.type s))
  | .intersection members => intersectionOf s.strict (members.map (r.type s))
  | .keysOf type => r.keysOf s (r.type s type)
  | .valueType _ path _ => r.valueAlong s path
  | .imported source isValue path arguments =>
    r.importedType s source.name isValue path (arguments.map (r.type s))
  | .indexed container key => r.indexed s (r.type s container) (r.type s key)
  | .predicate asserted _ _ => if asserted then .void else .boolean
  | .conditional checked wanted whenTrue whenFalse =>
    r.conditional s checked wanted whenTrue whenFalse
  | .found formal => (s.boundType? formal.name).getD .other
  | .mapped key renamed optional readonly type => r.mapped s key renamed optional readonly type
  | .other => .other

end Resolver

end Turnstile.Source
