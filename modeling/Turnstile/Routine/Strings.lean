import Turnstile.Routine

/-! # Owned strings as routines

* **`Strings.create`** puts a text into a block of an allocator, the default one unless another is
  given.
* **`Strings.free`** releases a string; `null`, `undefined` and other values that count as absent
  are let be. -/

namespace Turnstile.Strings

/-- The wording for a value where a routine needs another kind of value. -/
def unusable (v : Value) : Value := .typeError ("unusable value of type " ++ v.typeWord)

/-- A new owned string with a text, or null when the allocator has no room. -/
def createIn (m : Memory) (text : Text) (allocator : AllocatorId) : Memory × Completion :=
  let (m, result) := m.createString text allocator
  (m, match result with
    | .ok (some string) => .ok (.owned string)
    | .ok none => .ok .null
    | .error fault => .error fault.toValue)

/-- A text put into an owned string, as a routine of the text and the allocator. -/
def create : Routine where
  act world args :=
    match argument args 0, argument args 1 with
    | .text text, .undefined => createIn world.memory text Memory.defaultAllocator
    | .text text, .allocator allocator => createIn world.memory text allocator
    | .text _, other => (world.memory, .error (unusable other))
    | input, _ => (world.memory, .error (unusable input))

/-- An owned string released. -/
def free : Routine where
  act world args :=
    match argument args 0 with
    | .owned string =>
      let (memory, result) := world.memory.releaseString string
      (memory, match result with
        | .ok () => .ok .undefined
        | .error fault => .error fault.toValue)
    | v => (world.memory, if v.isFalsy then .ok .undefined else .error (unusable v))

end Turnstile.Strings
