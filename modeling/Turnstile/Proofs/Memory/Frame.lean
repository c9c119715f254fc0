import Turnstile.Memory.Operation

/-! # What the steps on a memory leave alone

The primitive steps on a memory, each by what it does to the three tables, and what that leaves of
the blocks, the allocators and the strings that were there before.

* **`Memory.Holds`** says that a block is in a memory, **`Memory.byteLength`** how long it is.
* **`Memory.KeepsSizes`** relates two memories when every block of the first is in the second with
  as many bytes: no step takes a block away or makes it longer or shorter.
* **`Memory.capacity_run`** says that runs leave the capacity as it is. -/

namespace Turnstile.Memory

variable {m m' m'' : Memory} {a a' : AllocatorId} {b : BlockId} {s : StringId}

/-! ## The tables after a primitive step -/

@[simp] theorem addBlock_blocks (m : Memory) (bytes : List UInt8) :
    (m.addBlock bytes).1.blocks = m.blocks ++ [bytes] := rfl

@[simp] theorem addBlock_allocators (m : Memory) (bytes : List UInt8) :
    (m.addBlock bytes).1.allocators = m.allocators := rfl

@[simp] theorem addBlock_strings (m : Memory) (bytes : List UInt8) :
    (m.addBlock bytes).1.strings = m.strings := rfl

@[simp] theorem addBlock_id (m : Memory) (bytes : List UInt8) :
    (m.addBlock bytes).2 = ⟨m.blocks.length⟩ := rfl

@[simp] theorem wrap_allocators (m : Memory) (b : BlockId) (a : AllocatorId) :
    (m.wrap b a).1.allocators = m.allocators := rfl

@[simp] theorem wrap_strings (m : Memory) (b : BlockId) (a : AllocatorId) :
    (m.wrap b a).1.strings = m.strings ++ [⟨b, a, false⟩] := rfl

@[simp] theorem setAllocator_blocks (m : Memory) (a : AllocatorId) (state : Allocator) :
    (m.setAllocator a state).blocks = m.blocks := rfl

@[simp] theorem setAllocator_allocators (m : Memory) (a : AllocatorId) (state : Allocator) :
    (m.setAllocator a state).allocators = m.allocators.set a.index state := rfl

@[simp] theorem setContents_blocks (m : Memory) (b : BlockId) (bytes : List UInt8) :
    (m.setContents b bytes).blocks = m.blocks.set b.index bytes := rfl

@[simp] theorem markReleased_blocks (m : Memory) (s : StringId) :
    (m.markReleased s).blocks = m.blocks := rfl

@[simp] theorem markReleased_allocators (m : Memory) (s : StringId) :
    (m.markReleased s).allocators = m.allocators := rfl

@[simp] theorem poke_allocators (m : Memory) (b : BlockId) (index value : Int) :
    (m.poke b index value).allocators = m.allocators := by
  unfold poke
  split <;> rfl

@[simp] theorem poke_strings (m : Memory) (b : BlockId) (index value : Int) :
    (m.poke b index value).strings = m.strings := by
  unfold poke
  split <;> rfl

@[simp] theorem returnBlock_blocks (m : Memory) (a : AllocatorId) (b : BlockId) :
    (m.returnBlock a b).1.blocks = m.blocks := by
  unfold returnBlock
  split
  · split <;> rfl
  · rfl

@[simp] theorem returnBlock_strings (m : Memory) (a : AllocatorId) (b : BlockId) :
    (m.returnBlock a b).1.strings = m.strings := by
  unfold returnBlock
  split
  · split <;> rfl
  · rfl

/-! ## Capacities -/

@[simp] theorem provide_capacity (m : Memory) (a : AllocatorId) (size : Int) :
    (m.provide a size).1.capacity = m.capacity := by
  rw [provide]
  split
  · split <;> rfl
  · dsimp only
    split <;> rfl

@[simp] theorem returnBlock_capacity (m : Memory) (a : AllocatorId) (b : BlockId) :
    (m.returnBlock a b).1.capacity = m.capacity := by
  rw [returnBlock]
  split
  · split <;> rfl
  · rfl

@[simp] theorem release_capacity (m : Memory) (s : Option StringId) :
    (m.release s).1.capacity = m.capacity := by
  cases s with
  | none => rfl
  | some s =>
    rw [release, releaseString]
    split
    · rfl
    · exact returnBlock_capacity ..

@[simp] theorem createString_capacity (m : Memory) (text : Text) (a : AllocatorId) :
    (m.createString text a).1.capacity = m.capacity := by
  have hprovided := provide_capacity m a ((Utf8.encode text).length + 1)
  rw [createString]
  split
  · rfl
  · rcases hp : m.provide a ((Utf8.encode text).length + 1) with ⟨m', _ | b⟩
    · simp only [hp] at hprovided ⊢
      exact hprovided
    · simp only [hp] at hprovided ⊢
      split <;> exact hprovided

/-- **No operation changes the capacity**, -/
theorem capacity_perform (m : Memory) (operation : Operation) :
    (m.perform operation).1.capacity = m.capacity := by
  cases operation with
  | allocate a size =>
    rw [perform, allocate]
    dsimp only
    split
    · split
      · rfl
      · exact provide_capacity ..
    · exact provide_capacity ..
  | returnBlock a b => exact returnBlock_capacity m a b
  | create text a => exact createString_capacity m text a
  | release s => exact release_capacity m s
  | poke b index value =>
    rw [perform, poke]
    split <;> rfl
  | _ => rfl

/-- and neither does a run. -/
theorem capacity_run (m : Memory) (operations : List Operation) :
    (m.run operations).1.capacity = m.capacity := by
  induction operations generalizing m with
  | nil => rfl
  | cons operation rest ih =>
    rw [run]
    exact (ih _).trans (capacity_perform m operation)

/-! ## Looking after a step -/

/-- An allocator depends on the table of allocators alone. -/
theorem allocator_congr (h : m'.allocators = m.allocators) (a : AllocatorId) :
    m'.allocator a = m.allocator a := by
  rw [allocator, allocator, h]

/-- An allocator that is not in the table answers as the empty one. -/
theorem allocator_of_getElem?_none (h : m.allocators[a.index]? = none) :
    m.allocator a = .empty := by
  rw [allocator, h, Option.getD_none]

theorem allocator_of_getElem? {state : Allocator} (h : m.allocators[a.index]? = some state) :
    m.allocator a = state := by
  rw [allocator, h, Option.getD_some]

/-- Changing one allocator changes no other one. -/
theorem allocator_setAllocator (h : a.index < m.allocators.length) (state : Allocator) :
    (m.setAllocator a state).allocator a' = if a' = a then state else m.allocator a' := by
  rw [allocator, setAllocator_allocators, List.getElem?_set]
  by_cases heq : a' = a
  · subst heq
    rw [if_pos rfl, if_pos h, if_pos rfl, Option.getD_some]
  · have hne : ¬ a.index = a'.index := fun hi => heq (AllocatorId.ext hi.symm)
    rw [if_neg hne, if_neg heq, allocator]

/-- Changing an allocator that is not in the table changes nothing. -/
theorem setAllocator_of_getElem?_none (h : m.allocators[a.index]? = none) (state : Allocator) :
    m.setAllocator a state = m := by
  rw [setAllocator, List.set_eq_of_length_le (List.getElem?_eq_none_iff.mp h)]

/-- The contents of a block depend on the table of blocks alone. -/
theorem contents_congr (h : m'.blocks = m.blocks) (b : BlockId) : m'.contents b = m.contents b := by
  rw [contents, contents, h]

/-- A string depends on its place in the table of strings. -/
theorem string_of_getElem? {string : OwnedString} (h : m.strings[s.index]? = some string) :
    m.string s = string := by
  rw [Memory.string, h, Option.getD_some]

/-- A string that is not in the table counts as released. -/
theorem released_of_getElem?_none (h : m.strings[s.index]? = none) :
    (m.string s).released = true := by
  rw [Memory.string, h, Option.getD_none]

/-- A string that is not released is in the table. -/
theorem getElem?_of_not_released (h : (m.string s).released = false) :
    m.strings[s.index]? = some (m.string s) := by
  cases hs : m.strings[s.index]? with
  | none => simp [released_of_getElem?_none hs] at h
  | some string => rw [string_of_getElem? hs]

/-! ## Blocks and their sizes -/

/-- A memory **holds** a block that was brought in or handed out. -/
def Holds (m : Memory) (b : BlockId) : Prop := b.index < m.blocks.length

/-- The number of bytes in a block. -/
def byteLength (m : Memory) (b : BlockId) : Nat := (m.contents b).length

/-- Every block of one memory is in another with as many bytes. -/
def KeepsSizes (m m' : Memory) : Prop :=
  ∀ b, m.Holds b → m'.Holds b ∧ m'.byteLength b = m.byteLength b

theorem KeepsSizes.refl (m : Memory) : m.KeepsSizes m := fun _ hb => ⟨hb, rfl⟩

theorem KeepsSizes.trans (h : m.KeepsSizes m') (h' : m'.KeepsSizes m'') : m.KeepsSizes m'' := by
  intro b hb
  obtain ⟨hb', hlen⟩ := h b hb
  obtain ⟨hb'', hlen'⟩ := h' b hb'
  exact ⟨hb'', hlen'.trans hlen⟩

/-- The same table of blocks keeps all sizes. -/
theorem KeepsSizes.of_blocks_eq (h : m'.blocks = m.blocks) : m.KeepsSizes m' := by
  intro b hb
  rw [Holds, byteLength, byteLength, h, contents_congr h]
  exact ⟨hb, rfl⟩

/-- A block more is behind the ones that are there. -/
theorem contents_addBlock_of_holds (h : m.Holds b) (bytes : List UInt8) :
    (m.addBlock bytes).1.contents b = m.contents b := by
  rw [contents, contents, addBlock_blocks, List.getElem?_append_left h]

/-- The contents of the block that was added. -/
@[simp] theorem contents_addBlock_self (m : Memory) (bytes : List UInt8) :
    (m.addBlock bytes).1.contents ⟨m.blocks.length⟩ = bytes := by
  simp [contents]

theorem KeepsSizes.addBlock (m : Memory) (bytes : List UInt8) :
    m.KeepsSizes (m.addBlock bytes).1 := by
  intro b hb
  refine ⟨?_, ?_⟩
  · rw [Holds, addBlock_blocks, List.length_append]
    exact Nat.lt_add_right _ hb
  · rw [byteLength, byteLength, contents_addBlock_of_holds hb]

/-- New contents of a block leave every other block as it is. -/
theorem contents_setContents (h : m.Holds b) (bytes : List UInt8) (b' : BlockId) :
    (m.setContents b bytes).contents b' = if b' = b then bytes else m.contents b' := by
  rw [contents, setContents_blocks, List.getElem?_set]
  by_cases heq : b' = b
  · subst heq
    have hlt : b'.index < m.blocks.length := h
    rw [if_pos rfl, if_pos hlt, if_pos rfl, Option.getD_some]
  · have hne : ¬ b.index = b'.index := fun hi => heq (BlockId.ext hi.symm)
    rw [if_neg hne, if_neg heq, contents]

/-- New contents of the same length keep all sizes. -/
theorem KeepsSizes.setContents {bytes : List UInt8} (h : bytes.length = m.byteLength b) :
    m.KeepsSizes (m.setContents b bytes) := by
  intro b' hb'
  refine ⟨?_, ?_⟩
  · rw [Holds, setContents_blocks, List.length_set]
    exact hb'
  · by_cases hb : m.Holds b
    · rw [byteLength, byteLength, contents_setContents hb]
      by_cases heq : b' = b
      · rw [if_pos heq, h, heq, byteLength]
      · rw [if_neg heq]
    · rw [byteLength, byteLength]
      refine congrArg List.length (contents_congr ?_ b')
      rw [setContents_blocks, List.set_eq_of_length_le (Nat.le_of_not_lt hb)]

/-- A poke changes a byte, not a size. -/
theorem KeepsSizes.poke (m : Memory) (b : BlockId) (index value : Int) :
    m.KeepsSizes (m.poke b index value) := by
  unfold Memory.poke
  split
  · exact .refl m
  · exact .setContents (List.length_set ..)

end Turnstile.Memory
