import Turnstile.Routine

/-! # Fibonacci numbers

A loop counts up to an index and moves a pair of neighbours along. Its counter is a number, so it is
only as exact as numbers are.

* **`Fibonacci.Loop.run`** makes turns of the loop until the counter is past the index.
* **`Fibonacci.number`** is the neighbour that the loop ends with.
* **`Fibonacci.routine`** takes any safe natural number as index. -/

namespace Turnstile.Fibonacci

/-- The wording for an index that is no safe natural number. -/
def invalidIndex (shown : Text) : Text :=
  "Fibonacci index must be a non-negative integer, got " ++ shown

/-- **The loop**: its counter and a pair of neighbours. -/
structure Loop where
  counter : Number
  previous : Nat
  current : Nat

namespace Loop

/-- The loop before its first turn. -/
def start : Loop := ⟨2, 0, 1⟩

/-- The loop after one more turn, unless the counter is past the index. -/
def next? (index : Number) (loop : Loop) : Option Loop :=
  if loop.counter.le index then
    some ⟨loop.counter.add 1, loop.current, loop.previous + loop.current⟩
  else none

/-- The loop where it ends, or after as many turns as given. -/
def run (index : Number) : (turns : Nat) → Loop → Loop
  | 0, loop => loop
  | turns + 1, loop =>
    match loop.next? index with
    | some later => run index turns later
    | none => loop

end Loop

/-- The Fibonacci number at an index. There are fewer turns than the index says, since the counter
starts at two and moves up by one. -/
def number (index : Number) : Nat :=
  if index.le 1 then index.truncate.toNat
  else (Loop.start.run index index.truncate.toNat).current

/-- The index that a value is, if it is one. -/
def index? : Value → Option Number
  | .number n =>
    match n.toSafeInt? with
    | some i => if i < 0 then none else some n
    | none => none
  | _ => none

/-- **The Fibonacci number at an index given as a value.** -/
def value (n : Value) : Completion :=
  match index? n with
  | some index => .ok (.integer (number index))
  | none => .error (.raised "RangeError" (n.interpolated.map invalidIndex) none)

/-- The Fibonacci numbers as a routine of the index. -/
def routine : Routine := .pure fun args => value (argument args 0)

end Turnstile.Fibonacci
