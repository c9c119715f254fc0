import Turnstile.Text.Utf8
import Turnstile.Value

/-! # Memory: blocks, allocators and owned strings

A **memory** holds blocks of bytes, the allocators that hand them out, and the strings that own
them. Blocks, allocators and strings are only ever added, and a reference is a position: what a new
one refers to was never there before.

* **`Memory.provide`**, **`Memory.allocate`** and **`Memory.returnBlock`** ask an allocator for a
  block and give one back; **`Memory.liveBlocks`** and **`Memory.liveBytes`** are its accounts.
  Sizes from the capacity of the memory on are too large for its heaps.
* **`Memory.createString`** writes a text, a zero byte behind it, into a fresh block.
* **`Memory.releaseString`** gives a string's block back once; **`Memory.blockOf`** is the block of
  a string that has not been released. -/

namespace Turnstile

/-- A reference to a block. -/
@[ext] structure BlockId where
  index : Nat
  deriving DecidableEq, Repr

/-- What can go wrong with blocks and owned strings. -/
inductive MemoryFault where
  /-- A size that is no natural number. -/
  | invalidSize (size : Value)
  /-- A block given back to an allocator in which it is not live. -/
  | notLive
  /-- A second release of a string. -/
  | alreadyReleased
  /-- A read of a released string. -/
  | usedAfterRelease
  /-- A text with a zero unit, which would end the string early. -/
  | embeddedNul
  /-- A block shorter than the bytes to be written. -/
  | blockTooShort
  /-- A block given back to an allocator that throws instead of taking it. -/
  | refused (thrown : Value)

namespace MemoryFault

/-- The wording for a size that is no natural number. -/
def invalidSizeMessage (shown : Text) : Text :=
  "Allocation size must be a non-negative integer, got " ++ shown

/-- The error value of a fault; what an allocator throws is passed on as it is. -/
def toValue : MemoryFault → Value
  | .invalidSize size => .raised "RangeError" (size.interpolated.map invalidSizeMessage) none
  | .notLive => .error "ReleaseError" "Block is not live in this allocator" none
  | .alreadyReleased => .error "DoubleReleaseError" "Buffer has already been released" none
  | .usedAfterRelease => .error "UseAfterReleaseError" "Buffer was used after release" none
  | .embeddedNul => .error "TypeError" "Input contains an embedded NUL character" none
  | .blockTooShort => .error "RangeError" "offset is out of bounds" none
  | .refused thrown => thrown

/-- The kind of error that a fault is reported as. -/
def name (fault : MemoryFault) : Text := fault.toValue.kind

/-- The wording of a fault. -/
def message (fault : MemoryFault) : Text := fault.toValue.words

end MemoryFault

/-- The answers of an allocator that is no heap: any answers at all, in the order of the calls. -/
structure Supplier where
  /-- The bytes of the block that answers the request with a given number for a size. -/
  supply : (request : Nat) → (size : Int) → Option (List UInt8)
  /-- What the return with a given number throws instead of taking a block. -/
  refusal? : (number : Nat) → (block : BlockId) → Option Value := fun _ _ => none

instance : CoeFun Supplier fun _ => (request : Nat) → (size : Int) → Option (List UInt8) :=
  ⟨Supplier.supply⟩

/-- An **allocator**. -/
inductive Allocator where
  /-- Hands out zeroed blocks up to a limit of bytes in use and knows which of them are live. -/
  | heap (limit : Number) (live : List BlockId) (bytesInUse : Nat)
  /-- Answers requests and returns as `supply` says, and counts both. -/
  | supplied (supply : Supplier) (requests returns : Nat)

namespace Allocator

/-- A heap with nothing in use. -/
def newHeap (limit : Number) : Allocator := .heap limit [] 0

/-- An allocator whose blocks hold `extra` bytes more than asked for, every byte being `fill`. -/
def filled (extra : Int) (fill : UInt8) : Allocator :=
  .supplied { supply := fun _ size => some (List.replicate (size + extra).toNat fill) } 0 0

/-- An allocator that provides nothing. -/
def empty : Allocator := .supplied { supply := fun _ _ => none } 0 0

/-- The limit of a heap. -/
def limit? : Allocator → Option Number
  | .heap limit _ _ => some limit
  | .supplied .. => none

/-- The blocks that are live in a heap. -/
def live : Allocator → List BlockId
  | .heap _ live _ => live
  | .supplied .. => []

/-- The bytes that a heap counts as in use. -/
def bytesInUse : Allocator → Nat
  | .heap _ _ bytesInUse => bytesInUse
  | .supplied .. => 0

end Allocator

/-- A **string that owns its block**: the block, its allocator, and whether it was released. -/
structure OwnedString where
  block : BlockId
  allocator : AllocatorId
  released : Bool
  deriving DecidableEq, Repr

/-- A **memory**. -/
structure Memory where
  /-- The contents of the blocks. -/
  blocks : List (List UInt8)
  allocators : List Allocator
  strings : List OwnedString
  /-- The first size for which a heap finds no room at all, however high its limit. It is not for the
  program to choose; an allocator that is no heap answers as it likes. -/
  capacity : Nat

namespace Memory

/-- The allocator that is used when none is named. -/
def defaultAllocator : AllocatorId := ⟨0⟩

/-- A memory with nothing but the default allocator, a heap without a limit. -/
def fresh (capacity : Nat) : Memory := ⟨[], [.newHeap (.infinity false)], [], capacity⟩

/-- Such a memory where blocks of less than four gigabytes can be had. -/
def initial : Memory := fresh (Nat.pow 2 32)

/-! ## Looking -/

/-- The bytes of a block. -/
def contents (m : Memory) (b : BlockId) : List UInt8 := (m.blocks[b.index]?).getD []

/-- An allocator by reference. -/
def allocator (m : Memory) (a : AllocatorId) : Allocator := (m.allocators[a.index]?).getD .empty

/-- The blocks that are live in an allocator. -/
def live (m : Memory) (a : AllocatorId) : List BlockId := (m.allocator a).live

/-- The number of blocks that are live in an allocator. -/
def liveBlocks (m : Memory) (a : AllocatorId) : Nat := (m.live a).length

/-- The bytes that an allocator counts as in use. -/
def liveBytes (m : Memory) (a : AllocatorId) : Nat := (m.allocator a).bytesInUse

/-- A string by reference; what is not there counts as released. -/
def string (m : Memory) (s : StringId) : OwnedString :=
  (m.strings[s.index]?).getD ⟨⟨m.blocks.length⟩, ⟨m.allocators.length⟩, true⟩

/-! ## Adding -/

/-- A memory with one block more. -/
def addBlock (m : Memory) (bytes : List UInt8) : Memory × BlockId :=
  (⟨m.blocks ++ [bytes], m.allocators, m.strings, m.capacity⟩, ⟨m.blocks.length⟩)

/-- A memory with one allocator more. -/
def addAllocator (m : Memory) (a : Allocator) : Memory × AllocatorId :=
  (⟨m.blocks, m.allocators ++ [a], m.strings, m.capacity⟩, ⟨m.allocators.length⟩)

/-- A memory with one string more, around a block and not released. -/
def wrap (m : Memory) (b : BlockId) (a : AllocatorId) : Memory × StringId :=
  (⟨m.blocks, m.allocators, m.strings ++ [⟨b, a, false⟩], m.capacity⟩, ⟨m.strings.length⟩)

/-! ## Changing -/

/-- A memory with an allocator in another state. -/
def setAllocator (m : Memory) (a : AllocatorId) (state : Allocator) : Memory :=
  ⟨m.blocks, m.allocators.set a.index state, m.strings, m.capacity⟩

/-- A memory with other bytes in a block. -/
def setContents (m : Memory) (b : BlockId) (bytes : List UInt8) : Memory :=
  ⟨m.blocks.set b.index bytes, m.allocators, m.strings, m.capacity⟩

/-- A memory in which a string is released. -/
def markReleased (m : Memory) (s : StringId) : Memory :=
  ⟨m.blocks, m.allocators,
    m.strings.modify s.index fun string => ⟨string.block, string.allocator, true⟩, m.capacity⟩

/-- One byte of a block changed; positions outside the block are ignored. -/
def poke (m : Memory) (b : BlockId) (index value : Int) : Memory :=
  if index < 0 then m
  else m.setContents b ((m.contents b).set index.toNat (UInt8.ofNat (value % 256).toNat))

/-! ## Allocators -/

/-- Whether a total of bytes is more than a limit; no total is more than `nan`. -/
def exceeds (total : Nat) : (limit : Number) → Bool
  | .nan => false
  | .infinity negative => negative
  | .finite negative quanta _ => decide (Number.signed negative quanta < (total * Number.one : Nat))

/-- The natural number that a size is, if it is one. -/
def size? (size : Value) : Option Nat :=
  match size with
  | .number n =>
    match n.toInt? with
    | some i => if 0 ≤ i then some i.toNat else none
    | none => none
  | _ => none

/-- A size as it reaches an allocator that does not check it. -/
def looseSize : Value → Int
  | .number n => n.truncate
  | _ => 0

/-- **A block of a given size from an allocator**, none when it can provide none. -/
def provide (m : Memory) (a : AllocatorId) (size : Int) : Memory × Option BlockId :=
  match m.allocator a with
  | .heap limit live bytesInUse =>
    if exceeds (bytesInUse + size.toNat) limit || m.capacity ≤ size.toNat then (m, none)
    else
      let (m, block) := m.addBlock (List.replicate size.toNat 0)
      (m.setAllocator a (.heap limit (block :: live) (bytesInUse + size.toNat)), some block)
  | .supplied supply requests returns =>
    let m := m.setAllocator a (.supplied supply (requests + 1) returns)
    match supply requests size with
    | none => (m, none)
    | some bytes =>
      let (m, block) := m.addBlock bytes
      (m, some block)

/-- A block of a size given as a value. A heap refuses a size that is no natural number. -/
def allocate (m : Memory) (a : AllocatorId) (size : Value) :
    Memory × Except MemoryFault (Option BlockId) :=
  match m.allocator a with
  | .heap .. =>
    match size? size with
    | none => (m, .error (.invalidSize size))
    | some n =>
      let (m, block) := m.provide a n
      (m, .ok block)
  | .supplied .. =>
    let (m, block) := m.provide a (looseSize size)
    (m, .ok block)

/-- **A block given back to an allocator.** A heap takes back what is live in it; any other allocator
counts the call, whether it takes the block or throws. -/
def returnBlock (m : Memory) (a : AllocatorId) (b : BlockId) : Memory × Except MemoryFault Unit :=
  match m.allocator a with
  | .heap limit live bytesInUse =>
    if live.contains b then
      (m.setAllocator a (.heap limit (live.erase b) (bytesInUse - (m.contents b).length)), .ok ())
    else (m, .error .notLive)
  | .supplied supply requests returns =>
    (m.setAllocator a (.supplied supply requests (returns + 1)),
      match supply.refusal? returns b with
      | none => .ok ()
      | some thrown => .error (.refused thrown))

/-! ## Owned strings -/

/-- The bytes with others written over their start. -/
def overwrite (bytes written : List UInt8) : List UInt8 := written ++ bytes.drop written.length

/-- A block's bytes once a text was written into it: the bytes of the text, then a zero byte where
there is room for one. -/
def terminated (bytes encoded : List UInt8) : List UInt8 :=
  (overwrite bytes encoded).set encoded.length 0

/-- **A string with a text in a fresh block**, none when the allocator provides no block. -/
def createString (m : Memory) (text : Text) (a : AllocatorId) :
    Memory × Except MemoryFault (Option StringId) :=
  if text.contains 0 then (m, .error .embeddedNul)
  else
    let encoded := Utf8.encode text
    match m.provide a (encoded.length + 1) with
    | (m, none) => (m, .ok none)
    | (m, some block) =>
      let bytes := m.contents block
      if bytes.length < encoded.length then (m, .error .blockTooShort)
      else
        let (m, string) := (m.setContents block (terminated bytes encoded)).wrap block a
        (m, .ok (some string))

/-- The block of a string that has not been released. -/
def blockOf (m : Memory) (s : StringId) : Except MemoryFault BlockId :=
  let string := m.string s
  if string.released then .error .usedAfterRelease else .ok string.block

/-- The number of bytes of a string without the one at its end; `-1` for an empty block. -/
def stringLength (m : Memory) (s : StringId) : Except MemoryFault Int :=
  (m.blockOf s).map fun block => ((m.contents block).length : Int) - 1

/-- The text of a string: all its bytes but the last. -/
def stringText (m : Memory) (s : StringId) : Except MemoryFault Text :=
  (m.blockOf s).map fun block => Utf8.read (m.contents block).dropLast

/-- **A string released**: its block goes back to its allocator. The string counts as released from
the first attempt on, even when the allocator refuses the block. -/
def releaseString (m : Memory) (s : StringId) : Memory × Except MemoryFault Unit :=
  let string := m.string s
  if string.released then (m, .error .alreadyReleased)
  else (m.markReleased s).returnBlock string.allocator string.block

/-- A string released if there is one; releasing nothing does nothing. -/
def release (m : Memory) : Option StringId → Memory × Except MemoryFault Unit
  | none => (m, .ok ())
  | some s => m.releaseString s

end Memory

end Turnstile
