import Turnstile.Memory

/-! # Runs over a memory

* **`Memory.Operation`** lists everything that can be done with a memory.
* **`Memory.perform`** does one operation and answers it; a fault is an answer too.
* **`Memory.run`** does a list of them in order. -/

namespace Turnstile.Memory

/-- One thing done with a memory. -/
inductive Operation where
  /-- Ask an allocator for a block. -/
  | allocate (allocator : AllocatorId) (size : Value)
  /-- Give a block back to an allocator. -/
  | returnBlock (allocator : AllocatorId) (block : BlockId)
  /-- Bring in a block that no allocator knows. -/
  | adopt (bytes : List UInt8)
  /-- Create a string. -/
  | create (text : Text) (allocator : AllocatorId)
  /-- Make a string around a block. -/
  | wrap (block : BlockId) (allocator : AllocatorId)
  /-- Release a string, or nothing. -/
  | release (string : Option StringId)
  /-- Change one byte of a block. -/
  | poke (block : BlockId) (index value : Int)
  /-- Ask whether a string is released. -/
  | isReleased (string : StringId)
  /-- Read a string's text. -/
  | readText (string : StringId)
  /-- Read a string's length. -/
  | readLength (string : StringId)
  /-- Ask for a string's block. -/
  | readBlock (string : StringId)

/-- The answer to an operation that ends without a fault. -/
inductive Answer where
  | done
  | block (block : Option BlockId)
  | string (string : Option StringId)
  | flag (b : Bool)
  | text (t : Text)
  | length (n : Int)

/-- **One operation**: the memory after it, and its answer. -/
def perform (m : Memory) : Operation → Memory × Except MemoryFault Answer
  | .allocate a size =>
    let (m, result) := m.allocate a size
    (m, result.map .block)
  | .returnBlock a b =>
    let (m, result) := m.returnBlock a b
    (m, result.map fun _ => .done)
  | .adopt bytes =>
    let (m, b) := m.addBlock bytes
    (m, .ok (.block (some b)))
  | .create text a =>
    let (m, result) := m.createString text a
    (m, result.map .string)
  | .wrap b a =>
    let (m, s) := m.wrap b a
    (m, .ok (.string (some s)))
  | .release s =>
    let (m, result) := m.release s
    (m, result.map fun _ => .done)
  | .poke b index value => (m.poke b index value, .ok .done)
  | .isReleased s => (m, .ok (.flag (m.string s).released))
  | .readText s => (m, (m.stringText s).map .text)
  | .readLength s => (m, (m.stringLength s).map .length)
  | .readBlock s => (m, (m.blockOf s).map fun b => .block (some b))

/-- The memory after a list of operations, and their answers in order. -/
def run (m : Memory) : List Operation → Memory × List (Except MemoryFault Answer)
  | [] => (m, [])
  | operation :: rest =>
    let (m, answer) := m.perform operation
    let (m, answers) := run m rest
    (m, answer :: answers)

end Turnstile.Memory
