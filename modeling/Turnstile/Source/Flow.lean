import Turnstile.Source.Calls

/-! # What is known where control comes

* **`Reference`** is a variable, or something reached from it by members.
* **`Facts`** are the types that references have beyond their declared ones, **`Flow`** the facts at
  a point of code, or that control never comes there.
* **`Flow.join`** is what is known where two ways meet. -/

namespace Turnstile.Source

/-- **What a fact is about**: a variable by its home, or the receiver, and the members that lead on
from it. -/
structure Reference where
  root : Option Home
  path : List Text
  deriving DecidableEq

namespace Reference

/-- Whether a reference is reached from another one, or is that one. -/
def isWithin (reference whole : Reference) : Bool :=
  reference.root = whole.root && whole.path.isPrefixOf reference.path

/-- A member of what a reference stands for. -/
def member (reference : Reference) (name : Text) : Reference :=
  { reference with path := reference.path ++ [name] }

end Reference

/-- The types that references have, beyond their declared ones. -/
abbrev Facts := List (Reference × SourceType)

namespace Facts

/-- Facts without those about a reference, and about what is reached from it. -/
def forgetting (facts : Facts) (reference : Reference) : Facts :=
  facts.filter fun (own, _) => !own.isWithin reference

/-- Facts with one more. -/
def knowing (facts : Facts) (reference : Reference) (type : SourceType) : Facts :=
  (reference, type) :: facts.filter fun (own, _) => own ≠ reference

/-- The facts that hold on both of two ways. -/
def join (strict : Bool) (a b : Facts) : Facts :=
  a.filterMap fun (reference, type) =>
    (b.lookup reference).map fun second => (reference, .unionOf strict [type, second])

/-- Whether two lists of facts say the same. -/
def isSame (a b : Facts) : Bool :=
  a.length = b.length && a.all fun (reference, type) =>
    match b.lookup reference with
    | some second => type.isLike second
    | none => false

end Facts

/-- **What is known at a point of code**; nothing stands for a point where control never comes. -/
abbrev Flow := Option Facts

namespace Flow

/-- **What is known where two ways meet.** -/
def join (strict : Bool) : Flow → Flow → Flow
  | none, b => b
  | a, none => a
  | some a, some b => some (a.join strict b)

/-- What is known where several ways meet. -/
def joinAll (strict : Bool) (ways : List Flow) : Flow := ways.foldl (join strict) none

/-- Whether two points are known to be the same. -/
def isSame : Flow → Flow → Bool
  | none, none => true
  | some a, some b => a.isSame b
  | _, _ => false

/-- A flow with one more fact. -/
def knowing (flow : Flow) (reference : Reference) (type : SourceType) : Flow :=
  flow.map fun facts => facts.knowing reference type

/-- A flow without what is known of a reference. -/
def forgetting (flow : Flow) (reference : Reference) : Flow :=
  flow.map fun facts => facts.forgetting reference

end Flow

end Turnstile.Source
