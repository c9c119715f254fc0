import Turnstile.Proofs.Memory.Allocation
import Turnstile.Proofs.Memory.History

/-! # What one operation can do

* **`Transition`** lists what can become of a memory of heaps in one operation, with the blocks that
  move; **`perform_transition`** says that there is nothing else.
* **`movements_create`** and **`movements_release`** say which blocks a string moves. -/

namespace Turnstile.Memory

variable {limits : List Number} {m m' : Memory} {a : AllocatorId} {b : BlockId} {s : StringId}
  {operation : Operation} {fault : MemoryFault}

/-- **The ways in which an operation changes a memory** of heaps, and the blocks that it moves. -/
inductive Transition (m : Memory) : Operation → List Movement → Memory → Prop where
  /-- A look, or an operation that fails. -/
  | idle (operation : Operation) : Transition m operation [] m
  /-- A block that no allocator knows. -/
  | adopt (bytes : List UInt8) : Transition m (.adopt bytes) [] (m.addBlock bytes).1
  /-- A string around a block that is there. -/
  | wrap (b : BlockId) (a : AllocatorId) : Transition m (.wrap b a) [] (m.wrap b a).1
  /-- A byte of a block. -/
  | poke (b : BlockId) (index value : Int) :
    Transition m (.poke b index value) [] (m.poke b index value)
  /-- A block handed out. -/
  | allocate {a : AllocatorId} {size : Value} {n : Nat} {b : BlockId} {m' : Memory}
      (provided : m.provide a n = (m', some b)) :
    Transition m (.allocate a size) [.allocated a b] m'
  /-- A string with a text in a block handed out for it. -/
  | create {text : Text} {a : AllocatorId} {b : BlockId} {m' : Memory}
      (provided : m.provide a ((Utf8.encode text).length + 1 : Nat) = (m', some b)) :
    Transition m (.create text a) [.created ⟨m.strings.length⟩ a b text] (m'.written b text a)
  /-- A block taken back. -/
  | returnBlock {a : AllocatorId} {b : BlockId} {m' : Memory}
      (returned : m.returnBlock a b = (m', .ok ())) :
    Transition m (.returnBlock a b) [.returned a b] m'
  /-- A string released, and its block taken back. -/
  | release {s : StringId} {m' : Memory} (unreleased : (m.string s).released = false)
      (returned : (m.markReleased s).returnBlock (m.string s).allocator (m.string s).block
        = (m', .ok ())) :
    Transition m (.release (some s))
      [.released s (m.string s).allocator (m.string s).block] m'
  /-- A string released, and its block refused. -/
  | refuse {s : StringId} (unreleased : (m.string s).released = false)
      (notLive : (m.string s).block ∉ m.live (m.string s).allocator) :
    Transition m (.release (some s)) [] (m.markReleased s)

/-! ## What an operation gives -/

theorem perform_allocate (m : Memory) (a : AllocatorId) (size : Value) :
    m.perform (.allocate a size) = ((m.allocate a size).1, (m.allocate a size).2.map .block) := rfl

theorem perform_returnBlock (m : Memory) (a : AllocatorId) (b : BlockId) :
    m.perform (.returnBlock a b)
      = ((m.returnBlock a b).1, (m.returnBlock a b).2.map fun _ => .done) := rfl

theorem perform_create (m : Memory) (text : Text) (a : AllocatorId) :
    m.perform (.create text a)
      = ((m.createString text a).1, (m.createString text a).2.map .string) := rfl

theorem perform_release (m : Memory) (s : Option StringId) :
    m.perform (.release s) = ((m.release s).1, (m.release s).2.map fun _ => .done) := rfl

/-- **An operation that fails moves nothing.** -/
theorem movements_of_error (h : (m.perform operation).2 = .error fault) :
    m.movements operation = [] := by
  unfold movements
  rw [h]
  cases operation with
  | release s => cases s <;> rfl
  | _ => rfl

/-! ## Requests and returns -/

/-- A request as a value: refused when it is no natural number, otherwise passed on. -/
theorem allocate_heap {limit : Number} (hm : HasLimits limits m)
    (hl : limits[a.index]? = some limit) (size : Value) :
    m.allocate a size =
      match size? size with
      | none => (m, .error (.invalidSize size))
      | some n => ((m.provide a n).1, .ok (m.provide a n).2) := by
  have hstate := allocator_of_getElem? (hm.heap hl)
  cases hsize : size? size <;> simp only [allocate, hstate, hsize]

theorem allocate_dangling (h : m.allocators[a.index]? = none) (size : Value) :
    m.allocate a size = (m, .ok none) := by
  rw [allocate, allocator_of_getElem?_none h]
  simp only [Allocator.empty, provide_dangling h]

theorem transition_allocate (hm : HasLimits limits m) (a : AllocatorId) (size : Value) :
    Transition m (.allocate a size) (m.movements (.allocate a size))
      (m.perform (.allocate a size)).1 := by
  rcases hm.cases a with ⟨limit, -, -, hl, -⟩ | ⟨-, hat⟩
  · cases hsize : size? size with
    | none =>
      have hanswer : m.allocate a size = (m, .error (.invalidSize size)) := by
        rw [allocate_heap hm hl, hsize]
      unfold movements
      rw [perform_allocate, hanswer]
      exact .idle _
    | some n =>
      cases hp : m.provide a n with
      | mk m' block =>
        have hanswer : m.allocate a size = (m', .ok block) := by
          simp only [allocate_heap hm hl, hsize, hp]
        unfold movements
        rw [perform_allocate, hanswer]
        cases block with
        | none =>
          obtain ⟨rfl, -⟩ := provide_none hm hp
          exact .idle _
        | some b => exact .allocate hp
  · unfold movements
    rw [perform_allocate, allocate_dangling hat]
    exact .idle _

theorem transition_returnBlock (hm : HasLimits limits m) (a : AllocatorId) (b : BlockId) :
    Transition m (.returnBlock a b) (m.movements (.returnBlock a b))
      (m.perform (.returnBlock a b)).1 := by
  unfold movements
  rw [perform_returnBlock]
  cases hr : m.returnBlock a b with
  | mk m' result =>
    cases result with
    | error fault =>
      obtain ⟨rfl, -, -⟩ := returnBlock_error hm hr
      exact .idle _
    | ok => exact .returnBlock hr

/-! ## Strings -/

/-- The new string of a memory stands behind the others, around the block that was handed out. -/
theorem string_written (m : Memory) (b : BlockId) (text : Text) (a : AllocatorId) :
    (m.written b text a).string ⟨m.strings.length⟩ = ⟨b, a, false⟩ := by
  apply string_of_getElem?
  simp

/-- A new string moves its block. -/
theorem movements_create {text : Text} (h : m.createString text a = (m', .ok (some s))) :
    m.movements (.create text a) = [.created s a (m'.string s).block text] := by
  unfold movements
  rw [perform_create, h]
  rfl

/-- A text that gets no string moves no block. -/
theorem movements_create_of_fails {text : Text}
    (h : ∀ s, (m.createString text a).2 ≠ .ok (some s)) : m.movements (.create text a) = [] := by
  unfold movements
  rw [perform_create]
  cases hc : m.createString text a with
  | mk m' result =>
    rw [hc] at h
    match result with
    | .error fault => rfl
    | .ok none => rfl
    | .ok (some s) => exact absurd rfl (h s)

theorem transition_create (hm : HasLimits limits m) (text : Text) (a : AllocatorId) :
    Transition m (.create text a) (m.movements (.create text a))
      (m.perform (.create text a)).1 := by
  by_cases hsome : ∃ s, (m.createString text a).2 = .ok (some s)
  · obtain ⟨s, hs⟩ := hsome
    have hc : m.createString text a = ((m.createString text a).1, .ok (some s)) :=
      Prod.ext rfl hs
    obtain ⟨m₁, b, -, hp, -, rfl, hafter⟩ := createString_some hc
    obtain ⟨limit, -, -, -, -, rfl⟩ := provide_some hm hp
    have hstring := string_written (m.provided a limit ((Utf8.encode text).length + 1)) b text a
    rw [movements_create hc, hafter, hstring, perform_create, hafter]
    exact .create hp
  · rw [not_exists] at hsome
    rw [movements_create_of_fails hsome, perform_create, createString_fails hm hsome]
    exact .idle _

/-- A release that succeeds moves the block of its string. -/
theorem movements_release (h : (m.release (some s)).2 = .ok ()) :
    m.movements (.release (some s)) = [.released s (m.string s).allocator (m.string s).block] := by
  unfold movements
  rw [perform_release, h]
  rfl

/-- A release that fails moves nothing. -/
theorem movements_release_of_error (h : (m.release (some s)).2 = .error fault) :
    m.movements (.release (some s)) = [] := by
  have hanswer : (m.perform (.release (some s))).2 = .error fault := by
    rw [perform_release, h]
    rfl
  exact movements_of_error hanswer

theorem transition_release (hm : HasLimits limits m) (s : StringId) :
    Transition m (.release (some s)) (m.movements (.release (some s)))
      (m.perform (.release (some s))).1 := by
  unfold movements
  rw [perform_release]
  simp only [release, releaseString]
  cases hs : (m.string s).released with
  | true => exact .idle _
  | false =>
    simp only [Bool.false_eq_true, if_false]
    cases hr : (m.markReleased s).returnBlock (m.string s).allocator (m.string s).block with
    | mk m' result =>
      cases result with
      | error fault =>
        obtain ⟨rfl, -, hlive⟩ :=
          returnBlock_error (hm.congr (markReleased_allocators m s)) hr
        exact .refuse hs hlive
      | ok => exact .release hs hr

/-- **There is nothing else that an operation can do.** -/
theorem perform_transition (hm : HasLimits limits m) (operation : Operation) :
    Transition m operation (m.movements operation) (m.perform operation).1 := by
  cases operation with
  | allocate a size => exact transition_allocate hm a size
  | returnBlock a b => exact transition_returnBlock hm a b
  | adopt bytes => exact .adopt bytes
  | create text a => exact transition_create hm text a
  | wrap b a => exact .wrap b a
  | release s =>
    cases s with
    | none => exact .idle _
    | some s => exact transition_release hm s
  | poke b index value => exact .poke b index value
  | isReleased s => exact .idle _
  | readText s => exact .idle _
  | readLength s => exact .idle _
  | readBlock s => exact .idle _

/-- **No operation takes a block away** or changes how long it is. -/
theorem perform_keepsSizes (hm : HasLimits limits m) (operation : Operation) :
    m.KeepsSizes (m.perform operation).1 := by
  have hstep := perform_transition hm operation
  generalize m.movements operation = moved, (m.perform operation).1 = m' at hstep ⊢
  cases hstep with
  | idle => exact .refl m
  | adopt bytes => exact .addBlock m bytes
  | wrap b a => exact .of_blocks_eq rfl
  | poke b index value => exact .poke m b index value
  | refuse => exact .of_blocks_eq rfl
  | @allocate a size n b m' provided =>
    obtain ⟨limit, -, -, -, rfl, rfl⟩ := provide_some hm provided
    exact .provided m a limit n
  | @create text a b m' provided =>
    -- The text is written into a block that was asked for with its length.
    have hlen := byteLength_provided hm provided
    obtain ⟨limit, -, -, -, rfl, rfl⟩ := provide_some hm provided
    exact KeepsSizes.trans (.provided m a limit _) (.written (by omega))
  | @returnBlock a b m' returned =>
    have hafter : (m.returnBlock a b).1 = m' := by rw [returned]
    rw [← hafter]
    exact .of_blocks_eq (returnBlock_blocks m a b)
  | @release s m' unreleased returned =>
    have hafter : ((m.markReleased s).returnBlock (m.string s).allocator (m.string s).block).1
        = m' := by rw [returned]
    rw [← hafter]
    exact .of_blocks_eq (returnBlock_blocks ..)

end Turnstile.Memory
