import Turnstile.Source.Tree

/-! # Names that code assigns to

* **`Statement.assigned`** lists the names that a statement assigns to, each with whether that is done
  inside of a function in it.
* **`Statement.hoisted`** are the variables of the whole function that are declared inside of a
  statement. -/

namespace Turnstile.Source

/-- A name that is assigned to. -/
structure AssignedName where
  name : Text
  /-- Whether a function inside of the code assigns to it. -/
  isNested : Bool

/-- Names that a function assigns to, seen from around it. -/
def nested (names : List AssignedName) : List AssignedName :=
  names.map fun n => { n with isNested := true }

/-- The names in an expression that is assigned to. -/
def targetNames : (limit : Nat) → Expression → List AssignedName
  | 0, _ => []
  | limit + 1, e =>
    match e with
    | .name _ name => [⟨name, false⟩]
    | .group _ inner => targetNames limit inner
    | .nonNull inner => targetNames limit inner
    | .spread _ inner => targetNames limit inner
    | .assign target _ _ => targetNames limit target
    | .array _ elements => elements.flatMap (targetNames limit)
    | .record _ items => items.flatMap fun item =>
      match item with
      | .property _ value => targetNames limit value
      | .short _ name _ => [⟨name, false⟩]
      | .spread value => targetNames limit value
      | .method .. => []
    | _ => []

mutual

/-- The names that an expression assigns to. -/
def expressionAssigned : (limit : Nat) → Expression → List AssignedName
  | 0, _ => []
  | limit + 1, e =>
    let own := expressionAssigned limit
    match e with
    | .template _ _ holes => holes.flatMap own
    | .tagged tag _ _ holes => own tag ++ holes.flatMap own
    | .loaded _ source => own source
    | .array _ elements => elements.flatMap own
    | .spread _ value => own value
    | .record _ items => items.flatMap fun item =>
      match item with
      | .property name value => nameAssigned limit name ++ own value
      | .short _ _ default => default.toList.flatMap own
      | .method name tree => nameAssigned limit name ++ nested (functionAssigned limit tree)
      | .spread value => own value
    | .function tree => nested (functionAssigned limit tree)
    | .class tree => classAssigned limit tree
    | .group _ inner => own inner
    | .call callee _ arguments _ => own callee ++ arguments.flatMap own
    | .construct _ callee _ arguments => own callee ++ arguments.flatMap own
    | .member container _ _ _ => own container
    | .element container index _ => own container ++ own index
    | .unary _ _ operand => own operand
    | .yielded _ _ value => value.toList.flatMap own
    | .step _ target => targetNames limit target ++ own target
    | .binary left _ right => own left ++ own right
    | .assign target _ value => targetNames limit target ++ own target ++ own value
    | .conditional condition whenTrue whenFalse => own condition ++ own whenTrue ++ own whenFalse
    | .cast value _ => own value
    | .satisfies value _ => own value
    | .nonNull value => own value
    | .applied value _ => own value
    | _ => []

/-- The names that the name of a member assigns to. -/
def nameAssigned : (limit : Nat) → MemberName → List AssignedName
  | 0, _ => []
  | limit + 1, .computed _ key => expressionAssigned limit key
  | _ + 1, .known .. => []

/-- The names that a pattern assigns to in its defaults. -/
def patternAssigned : (limit : Nat) → Pattern → List AssignedName
  | 0, _ => []
  | limit + 1, pattern =>
    let parts (all : List PatternPart) : List AssignedName := all.flatMap fun part =>
      match part with
      | .property key _ pattern default =>
        nameAssigned limit key ++ patternAssigned limit pattern
          ++ default.toList.flatMap (expressionAssigned limit)
      | .element pattern default =>
        patternAssigned limit pattern ++ default.toList.flatMap (expressionAssigned limit)
      | .rest pattern => patternAssigned limit pattern
      | .hole => []
    match pattern with
    | .name .. => []
    | .record _ all => parts all
    | .array _ all => parts all

/-- The names that a function assigns to. -/
def functionAssigned : (limit : Nat) → FunctionTree → List AssignedName
  | 0, _ => []
  | limit + 1, tree =>
    let inBinders := tree.binders.flatMap fun b =>
      patternAssigned limit b.pattern ++ b.default.toList.flatMap (expressionAssigned limit)
    inBinders ++ match tree.body with
      | .absent => []
      | .value e => expressionAssigned limit e
      | .block statements => statements.flatMap (statementAssigned limit)

/-- The names that a class assigns to. -/
def classAssigned : (limit : Nat) → ClassTree → List AssignedName
  | 0, _ => []
  | limit + 1, tree =>
    tree.base.toList.flatMap (expressionAssigned limit) ++ tree.members.flatMap fun m =>
      match m with
      | .field _ _ name _ value =>
        nameAssigned limit name ++ nested (value.toList.flatMap (expressionAssigned limit))
      | .method _ _ name tree => nameAssigned limit name ++ nested (functionAssigned limit tree)
      | .start statements => nested (statements.flatMap (statementAssigned limit))
      | .index .. => []

/-- The names that a statement assigns to. -/
def statementAssigned : (limit : Nat) → Statement → List AssignedName
  | 0, _ => []
  | limit + 1, s =>
    let own := expressionAssigned limit
    let all := statementAssigned limit
    match s with
    | .bindings _ _ _ declarators => declarators.flatMap fun d =>
      patternAssigned limit d.pattern ++ d.value.toList.flatMap own
    | .function _ tree => nested (functionAssigned limit tree)
    | .class _ tree => classAssigned limit tree
    | .space _ _ _ body => nested (body.flatMap all)
    | .exportDefault _ value => own value
    | .evaluate e => own e
    | .leave _ value => value.toList.flatMap own
    | .branch condition whenTrue whenFalse => own condition ++ all whenTrue ++ whenFalse.flatMap all
    | .loop start condition step body =>
      start.flatMap all ++ condition.toList.flatMap own ++ step.toList.flatMap own ++ all body
    | .loopOnce body condition => all body ++ own condition
    | .each _ _ _ pattern value body => patternAssigned limit pattern ++ own value ++ all body
    | .eachInto _ _ target value body =>
      targetNames limit target ++ own target ++ own value ++ all body
    | .labelled _ body => all body
    | .block statements => statements.flatMap all
    | .raise value => own value
    | .attempt body _ _ handler final => body.flatMap all ++ handler.flatMap all ++ final.flatMap all
    | .choose value cases => own value ++ cases.flatMap fun c =>
      c.test.toList.flatMap own ++ c.body.flatMap all
    | _ => []

end

/-- **The names that a statement assigns to**, looked for as deep as given. -/
def Statement.assigned (limit : Nat) (s : Statement) : List AssignedName := statementAssigned limit s

/-- The variables of the whole function that a statement declares, looked for as deep as given. -/
def hoistedIn : (limit : Nat) → Statement → List (BoundName × Declarator)
  | 0, _ => []
  | limit + 1, s =>
    let all := hoistedIn limit
    match s with
    | .bindings _ .function _ declarators =>
      declarators.flatMap fun d => d.pattern.names.map fun n => (n, d)
    | .block statements => statements.flatMap all
    | .branch _ whenTrue whenFalse => all whenTrue ++ whenFalse.flatMap all
    | .loop start _ _ body => start.flatMap all ++ all body
    | .loopOnce body _ => all body
    | .each _ _ .function pattern _ body =>
      (pattern.names.map fun n => (n, ⟨.name n.site n.name, some .other, none⟩)) ++ all body
    | .each _ _ _ _ _ body => all body
    | .eachInto _ _ _ _ body => all body
    | .labelled _ body => all body
    | .attempt body _ _ handler final =>
      body.flatMap all ++ handler.flatMap all ++ final.flatMap all
    | .choose _ cases => cases.flatMap fun c => c.body.flatMap all
    | _ => []

/-- **The variables of the whole function that are declared inside of a statement**, without those
that it declares itself. -/
def Statement.hoisted (limit : Nat) (s : Statement) : List (BoundName × Declarator) :=
  match s with
  | .bindings .. => []
  | s => hoistedIn limit s

end Turnstile.Source
