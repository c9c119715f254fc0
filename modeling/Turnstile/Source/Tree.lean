import Turnstile.Number.Shortest
import Turnstile.Source.Token

/-! # Trees of a source

What a source says, as trees.

* **`TypeTree`** is a type as it is written.
* **`Expression`** and **`Statement`** are the code; a declaration is a statement.
* **`Pattern`** is what a value is bound to: a name, or names for its parts.
* **`FunctionTree`** and **`ClassTree`** are functions and classes, declared or in an expression.
* **`SourceTree`** is a whole source: its statements, and whether all its blocks are closed. -/

namespace Turnstile.Source

/-- A literal value. -/
inductive Literal where
  | text (value : Text)
  | number (value : Number)
  | integer (value : Int)
  | boolean (value : Bool)
  deriving DecidableEq

/-! ## Types -/

/-- A module that is named inside a type or an expression. -/
structure ModuleName where
  site : Site
  name : Text

mutual

/-- A **type as it is written**. -/
inductive TypeTree where
  /-- A keyword type or a reference by a path of names, with type arguments. -/
  | name (site : Site) (path : List Text) (arguments : List TypeTree)
  | literal (value : Literal)
  /-- A template of texts, with types in its holes. -/
  | template (texts : List Text) (holes : List TypeTree)
  | array (element : TypeTree)
  /-- An array or tuple type behind `readonly`. -/
  | readonly (type : TypeTree)
  | tuple (items : List TupleItem)
  | function (shape : CallShape)
  | construct (isAbstract : Bool) (shape : CallShape)
  | record (members : List TypeMember)
  | union (members : List TypeTree)
  | intersection (members : List TypeTree)
  | keysOf (type : TypeTree)
  /-- The type of the value that a path of names stands for. -/
  | valueType (site : Site) (path : List Text) (arguments : List TypeTree)
  /-- What a path of names stands for in a module; with `isValue`, the type of that value. -/
  | imported (source : ModuleName) (isValue : Bool) (path : List Text) (arguments : List TypeTree)
  | indexed (object index : TypeTree)
  /-- What a test says about a parameter; `asserted` when it returns only if it holds. -/
  | predicate (asserted : Bool) (subject : Text) (type : Option TypeTree)
  /-- One of two types, by whether a type fits another one. -/
  | conditional (checked wanted whenTrue whenFalse : TypeTree)
  /-- A type that a condition finds. -/
  | found (name : TypeFormal)
  /-- A record with a member for each key of a type. -/
  | mapped (key : TypeFormal) (renamed : Option TypeTree) (optional readonly : Option Bool)
      (type : Option TypeTree)
  /-- A type of another form. -/
  | other

/-- An element of a tuple type. -/
structure TupleItem where
  label : Option Text
  isOptional : Bool
  isRest : Bool
  type : TypeTree

/-- A parameter. One that takes its argument apart has no name and is written as `shape`. -/
structure Formal where
  site : Site
  name : Option Text
  shape : Text
  isOptional : Bool
  isRest : Bool
  type : Option TypeTree

/-- A type parameter with what bounds it and what stands for it when it is not given. -/
structure TypeFormal where
  site : Site
  name : Text
  isConstant : Bool
  bound : Option TypeTree
  default : Option TypeTree

/-- The parameters and the result of something that can be called. -/
structure CallShape where
  typeFormals : List TypeFormal
  formals : List Formal
  result : Option TypeTree

/-- A member of a record type. -/
inductive TypeMember where
  | property (site : Site) (name : Text) (isOptional isReadonly : Bool) (type : Option TypeTree)
  | method (site : Site) (name : Text) (isOptional : Bool) (shape : CallShape)
  | call (shape : CallShape)
  | construct (shape : CallShape)
  | index (name : Text) (isReadonly : Bool) (key : TypeTree) (type : TypeTree)

end

instance : Inhabited TypeTree := ⟨.other⟩

/-! ## Code -/

/-- How variables are declared. -/
inductive VariableKind where
  | constant
  | block
  | function
  deriving DecidableEq, Repr

/-- What stands in front of a declaration. -/
structure Modifiers where
  isExported : Bool
  isDefault : Bool
  isDeclared : Bool
  deriving DecidableEq, Repr, Inhabited

/-- Who can use a member of a class. -/
inductive Visibility where
  | everyone
  | heirs
  | itself
  deriving DecidableEq, Repr, Inhabited

/-- What stands in front of a member of a class. -/
structure MemberModifiers where
  visibility : Visibility
  isStatic : Bool
  isReadonly : Bool
  isAbstract : Bool
  isDeclared : Bool
  isOptional : Bool
  deriving DecidableEq, Repr, Inhabited

/-- What kind of function a function is. -/
inductive FunctionKind where
  | plain
  | arrow
  | method
  | getter
  | setter
  | constructor
  deriving DecidableEq, Repr

/-- A name brought in from a module. -/
structure ImportedName where
  site : Site
  imported : Text
  name : Text
  nameSite : Site

/-- An import from a module. -/
structure ImportTree where
  site : Site
  moduleSite : Site
  moduleName : Text
  default : Option (Text × Site)
  space : Option (Text × Site)
  names : List ImportedName
  deriving Inhabited

/-- Whether an import brings names in. -/
def ImportTree.bringsNames (i : ImportTree) : Bool :=
  i.default.isSome || i.space.isSome || !i.names.isEmpty

/-- A name handed out under another one. -/
structure ExportedName where
  site : Site
  name : Text
  exported : Text

mutual

/-- An **expression**. -/
inductive Expression where
  | name (site : Site) (name : Text)
  | literal (site : Site) (value : Literal)
  | null (site : Site)
  /-- A pattern for texts. -/
  | pattern (site : Site)
  /-- A template: its texts, and the expressions in the holes between them. -/
  | template (site : Site) (texts : List Text) (holes : List Expression)
  /-- A template handed to a function. -/
  | tagged (tag : Expression) (typeArguments : List TypeTree) (site : Site) (holes : List Expression)
  | receiver (site : Site)
  /-- What a class is based on. -/
  | base (site : Site)
  /-- A module loaded while running. -/
  | loaded (site : Site) (source : Expression)
  | array (site : Site) (elements : List Expression)
  /-- An element that is left out. -/
  | hole (site : Site)
  /-- The elements of an iterable put in place. -/
  | spread (site : Site) (value : Expression)
  | record (site : Site) (items : List RecordItem)
  | function (tree : FunctionTree)
  | class (tree : ClassTree)
  /-- An expression in parentheses. -/
  | group (site : Site) (inner : Expression)
  | call (callee : Expression) (typeArguments : List TypeTree) (arguments : List Expression)
      (isOptional : Bool)
  | construct (site : Site) (callee : Expression) (typeArguments : List TypeTree)
      (arguments : List Expression)
  | member (object : Expression) (site : Site) (name : Text) (isOptional : Bool)
  | element (object index : Expression) (isOptional : Bool)
  | unary (site : Site) (operator : Text) (operand : Expression)
  /-- A value handed out of a generator; with `isWhole`, all values of an iterable. -/
  | yielded (site : Site) (isWhole : Bool) (value : Option Expression)
  /-- An increment or decrement, on either side. -/
  | step (site : Site) (target : Expression)
  | binary (left : Expression) (operator : Text) (right : Expression)
  | assign (target : Expression) (operator : Text) (value : Expression)
  | conditional (condition whenTrue whenFalse : Expression)
  /-- A value taken at another type; without a type, as constant as it can be. -/
  | cast (value : Expression) (type : Option TypeTree)
  | satisfies (value : Expression) (type : TypeTree)
  | nonNull (value : Expression)
  /-- A generic value with its type arguments. -/
  | applied (value : Expression) (typeArguments : List TypeTree)
  /-- An expression of another form. -/
  | other (site : Site)

/-- The name of a member of a class or of a record expression. -/
inductive MemberName where
  | known (site : Site) (name : Text)
  | computed (site : Site) (key : Expression)

/-- An item of a record expression. -/
inductive RecordItem where
  | property (name : MemberName) (value : Expression)
  /-- A variable put in under its own name; a default stands behind it where it is assigned to. -/
  | short (site : Site) (name : Text) (default : Option Expression)
  /-- A method, or one half of an accessor. -/
  | method (name : MemberName) (tree : FunctionTree)
  | spread (value : Expression)

/-- What a value is bound to: as a whole, or taken apart by its members or by its elements. -/
inductive Pattern where
  | name (site : Site) (name : Text)
  | record (site : Site) (parts : List PatternPart)
  | array (site : Site) (parts : List PatternPart)

/-- What a part of a value is bound to, and what stands for a part that is missing. -/
inductive PatternPart where
  | property (key : MemberName) (isShort : Bool) (pattern : Pattern) (default : Option Expression)
  | element (pattern : Pattern) (default : Option Expression)
  | hole
  | rest (pattern : Pattern)

/-- A parameter of a function with code, what it is bound to and what stands for a missing argument.
One with a visibility is a member of its class as well. -/
structure Binder where
  formal : Formal
  pattern : Pattern
  default : Option Expression
  visibility : Option Visibility
  decorators : List Expression

/-- A function with code, or the declaration of one. -/
structure FunctionTree where
  site : Site
  name : Option Text
  kind : FunctionKind
  isAsync : Bool
  isGenerator : Bool
  typeFormals : List TypeFormal
  binders : List Binder
  result : Option (TypeTree × Site)
  body : Body

/-- The code of a function. -/
inductive Body where
  | absent
  | value (expression : Expression)
  | block (statements : List Statement)

/-- A class, declared or in an expression. -/
structure ClassTree where
  site : Site
  name : Option Text
  isAbstract : Bool
  typeFormals : List TypeFormal
  base : Option Expression
  baseArguments : List TypeTree
  roles : List TypeTree
  members : List ClassMember
  decorators : List Expression

/-- A member of a class. -/
inductive ClassMember where
  | field (modifiers : MemberModifiers) (decorators : List Expression) (name : MemberName)
      (type : Option TypeTree) (value : Option Expression)
  /-- A method, a half of an accessor, or the constructor. -/
  | method (modifiers : MemberModifiers) (decorators : List Expression) (name : MemberName)
      (tree : FunctionTree)
  | index (isStatic : Bool) (member : TypeMember)
  /-- Code that runs when the class is made. -/
  | start (statements : List Statement)

/-- A variable with its type and first value. -/
structure Declarator where
  pattern : Pattern
  type : Option TypeTree
  value : Option Expression

/-- A member of an enumeration. -/
structure EnumMember where
  site : Site
  name : Text
  value : Option Expression

/-- A **statement**. -/
inductive Statement where
  | bindings (modifiers : Modifiers) (kind : VariableKind) (site : Site)
      (declarators : List Declarator)
  | function (modifiers : Modifiers) (tree : FunctionTree)
  | alias (modifiers : Modifiers) (site : Site) (name : Text) (typeFormals : List TypeFormal)
      (type : TypeTree)
  | interface (modifiers : Modifiers) (site : Site) (name : Text) (typeFormals : List TypeFormal)
      (bases : List TypeTree) (members : List TypeMember)
  | class (modifiers : Modifiers) (tree : ClassTree)
  | enumeration (modifiers : Modifiers) (site : Site) (name : Text) (members : List EnumMember)
  | space (modifiers : Modifiers) (site : Site) (name : Text) (body : List Statement)
  /-- What is declared for another module, or for all of them. -/
  | ambient (name : Option Text) (body : List Statement)
  | imports (tree : ImportTree)
  /-- Another name for what a path of names stands for. -/
  | shortcut (modifiers : Modifiers) (site : Site) (name : Text) (path : List Text)
  /-- Names handed out, from a module or from this source. -/
  | exports (names : List ExportedName) (source : Option (Text × Site))
  /-- Everything a module hands out, or the module itself under a name. -/
  | exportAll (name : Option Text) (source : Text) (site : Site)
  | exportDefault (site : Site) (value : Expression)
  | evaluate (expression : Expression)
  | leave (site : Site) (value : Option Expression)
  /-- A choice between a statement and another one, if there is one. -/
  | branch (condition : Expression) (whenTrue : Statement) (whenFalse : List Statement)
  /-- A loop: what is declared for it, its condition, what is evaluated behind its body, its body.
  -/
  | loop (start : List Statement) (condition step : Option Expression) (body : Statement)
  /-- A loop whose condition is looked at behind its body. -/
  | loopOnce (body : Statement) (condition : Expression)
  /-- A loop through the elements of something, or through its keys, bound to a pattern that is
  declared or assigned to. -/
  | each (isOver : Bool) (isAsync : Bool) (kind : VariableKind) (pattern : Pattern)
      (value : Expression) (body : Statement)
  | eachInto (isOver : Bool) (isAsync : Bool) (target value : Expression) (body : Statement)
  | labelled (label : Text) (body : Statement)
  | block (statements : List Statement)
  | raise (value : Expression)
  /-- Code with what handles its failure, if anything does, and what is done at last. -/
  | attempt (body : List Statement) (isHandled : Bool) (caught : List Binder)
      (handler final : List Statement)
  | choose (value : Expression) (cases : List Case)
  | jump (isAgain : Bool) (label : Option Text)
  | empty

/-- A case of a choice; the default one has no test. -/
structure Case where
  test : Option Expression
  body : List Statement

end

instance : Inhabited Expression := ⟨.other default⟩

instance : Inhabited Statement := ⟨.empty⟩

/-- The site where an expression starts. -/
def Expression.site : Expression → Site
  | .name site _ => site
  | .literal site _ => site
  | .null site => site
  | .pattern site => site
  | .template site .. => site
  | .tagged tag .. => tag.site
  | .receiver site => site
  | .base site => site
  | .loaded site _ => site
  | .array site _ => site
  | .hole site => site
  | .spread site _ => site
  | .record site _ => site
  | .function tree => tree.site
  | .class tree => tree.site
  | .group site _ => site
  | .call callee .. => callee.site
  | .construct site .. => site
  | .member container .. => container.site
  | .element container .. => container.site
  | .unary site .. => site
  | .yielded site .. => site
  | .step site _ => site
  | .binary left _ _ => left.site
  | .assign target _ _ => target.site
  | .conditional condition _ _ => condition.site
  | .cast value _ => value.site
  | .satisfies value _ => value.site
  | .nonNull value => value.site
  | .applied value _ => value.site
  | .other site => site

/-- An expression without the parentheses around it. -/
def Expression.bare : Expression → Expression
  | .group _ inner => inner.bare
  | e => e

/-- The site where a pattern starts. -/
def Pattern.site : Pattern → Site
  | .name site _ => site
  | .record site _ => site
  | .array site _ => site

/-- The site of the name of a member. -/
def MemberName.site : MemberName → Site
  | .known site _ => site
  | .computed site _ => site

/-- The name of a member, if it can be read off. -/
def MemberName.text? : MemberName → Option Text
  | .known _ name => some name
  | .computed .. => none

/-! ## Bound names -/

/-- A name that a pattern binds. -/
structure BoundName where
  name : Text
  site : Site
  deriving DecidableEq

mutual

/-- **The names that a pattern binds**, in their order. -/
def Pattern.names : Pattern → List BoundName
  | .name site own => [⟨own, site⟩]
  | .record _ parts => partNames parts
  | .array _ parts => partNames parts

/-- The names that parts are bound to. -/
def partNames : List PatternPart → List BoundName
  | [] => []
  | .property _ _ pattern _ :: rest => pattern.names ++ partNames rest
  | .element pattern _ :: rest => pattern.names ++ partNames rest
  | .hole :: rest => partNames rest
  | .rest pattern :: others => pattern.names ++ partNames others

end

/-- The name that a value is bound to as a whole. -/
def Pattern.name? : Pattern → Option Text
  | .name _ own => some own
  | _ => none

/-- A **whole source**. -/
structure SourceTree where
  statements : List Statement
  /-- The site of its end, if a block is not closed there. -/
  unclosed : Option Site
  comments : List (Text × Site)
  /-- Whether its first comments ask not to look for faults. -/
  isUnchecked : Bool
  /-- How many tokens it has. -/
  size : Nat

end Turnstile.Source
