import Turnstile.Proofs.Memory.Frame

/-! # What heaps do with requests

The answers of a memory all of whose allocators are heaps, with what each answer says about the
memory before it and the memory after it.

* **`Memory.HasLimits`** says that the allocators of a memory are heaps with the given limits.
* **`provide_some`** and **`provide_none`** invert a request for a block, **`returnBlock_ok`** and
  **`returnBlock_error`** the return of one, **`createString_some`** and **`createString_fails`**
  the making of a string. -/

namespace Turnstile.Memory

variable {limits : List Number} {m m' : Memory} {a a' : AllocatorId} {b : BlockId}

/-! ## Memories with heaps only -/

/-- **All allocators are heaps**, with the given limits in order. -/
def HasLimits (limits : List Number) (m : Memory) : Prop :=
  m.allocators.map Allocator.limit? = limits.map some

/-- A memory with nothing but empty heaps, one for each limit. -/
def ofLimits (capacity : Nat) (limits : List Number) : Memory :=
  ⟨[], limits.map Allocator.newHeap, [], capacity⟩

theorem hasLimits_ofLimits (capacity : Nat) (limits : List Number) :
    HasLimits limits (ofLimits capacity limits) := by
  rw [HasLimits, ofLimits, List.map_map]
  rfl

/-- Having limits depends on the table of allocators alone. -/
theorem HasLimits.congr (hm : HasLimits limits m) (h : m'.allocators = m.allocators) :
    HasLimits limits m' := by
  rw [HasLimits, h]
  exact hm

/-- A reference to an allocator leads to a heap with the limit of its place, or nowhere. -/
theorem HasLimits.cases (hm : HasLimits limits m) (a : AllocatorId) :
    (∃ limit live used, limits[a.index]? = some limit
      ∧ m.allocators[a.index]? = some (.heap limit live used))
    ∨ (limits[a.index]? = none ∧ m.allocators[a.index]? = none) := by
  have hat : m.allocators[a.index]?.map Allocator.limit? = limits[a.index]?.map some := by
    rw [← List.getElem?_map, ← List.getElem?_map, hm]
  cases hl : limits[a.index]? with
  | none =>
    rw [hl, Option.map_none, Option.map_eq_none_iff] at hat
    exact Or.inr ⟨rfl, hat⟩
  | some limit =>
    rw [hl, Option.map_some, Option.map_eq_some_iff] at hat
    obtain ⟨state, hstate, hlimit⟩ := hat
    cases state with
    | heap limit' live used =>
      rw [Allocator.limit?, Option.some.injEq] at hlimit
      subst hlimit
      exact Or.inl ⟨_, live, used, rfl, hstate⟩
    | supplied => simp [Allocator.limit?] at hlimit

/-- The heap at a place that has a limit. -/
theorem HasLimits.heap {limit : Number} (hm : HasLimits limits m)
    (hl : limits[a.index]? = some limit) :
    m.allocators[a.index]? = some (.heap limit (m.live a) (m.liveBytes a)) := by
  rcases hm.cases a with ⟨limit', live, used, hl', hat⟩ | ⟨hl', -⟩
  · rw [hl, Option.some.injEq] at hl'
    subst hl'
    rw [Memory.live, liveBytes, allocator_of_getElem? hat, hat, Allocator.live,
      Allocator.bytesInUse]
  · simp [hl] at hl'

/-- A change of a heap that keeps its limit keeps all limits. -/
theorem HasLimits.setAllocator {limit : Number} {live live' : List BlockId} {used used' : Nat}
    (hm : HasLimits limits m) (h : m.allocators[a.index]? = some (.heap limit live used)) :
    HasLimits limits (m.setAllocator a (.heap limit live' used')) := by
  rw [HasLimits, setAllocator_allocators, List.map_set, hm, ← hm]
  apply List.ext_getElem?
  intro i
  rw [List.getElem?_set]
  split
  · next hi =>
    subst hi
    rw [List.getElem?_map, h]
    simp [(List.getElem?_eq_some_iff.mp h).1, Allocator.limit?]
  · rfl

/-- Where there is no allocator, nothing is live. -/
theorem live_of_getElem?_none (h : m.allocators[a.index]? = none) : m.live a = [] := by
  rw [Memory.live, allocator_of_getElem?_none h]
  rfl

/-- After a change of one heap, the live blocks of every allocator. -/
theorem live_setAllocator {limit : Number} {live : List BlockId} {used : Nat}
    (h : a.index < m.allocators.length) :
    (m.setAllocator a (.heap limit live used)).live a' = if a' = a then live else m.live a' := by
  rw [Memory.live, allocator_setAllocator h, Memory.live]
  split <;> rfl

theorem liveBytes_setAllocator {limit : Number} {live : List BlockId} {used : Nat}
    (h : a.index < m.allocators.length) :
    (m.setAllocator a (.heap limit live used)).liveBytes a'
      = if a' = a then used else m.liveBytes a' := by
  rw [liveBytes, allocator_setAllocator h, liveBytes]
  split <;> rfl

/-! ## Requests -/

/-- The memory in which a heap handed out a fresh zeroed block of a size. -/
def provided (m : Memory) (a : AllocatorId) (limit : Number) (n : Nat) : Memory :=
  (m.addBlock (List.replicate n 0)).1.setAllocator a
    (.heap limit (⟨m.blocks.length⟩ :: m.live a) (m.liveBytes a + n))

@[simp] theorem provided_blocks (m : Memory) (a : AllocatorId) (limit : Number) (n : Nat) :
    (m.provided a limit n).blocks = m.blocks ++ [List.replicate n 0] := rfl

@[simp] theorem provided_strings (m : Memory) (a : AllocatorId) (limit : Number) (n : Nat) :
    (m.provided a limit n).strings = m.strings := rfl

/-- The block handed out is in the memory, -/
theorem holds_provided (m : Memory) (a : AllocatorId) (limit : Number) (n : Nat) :
    (m.provided a limit n).Holds ⟨m.blocks.length⟩ := by
  rw [Holds, provided_blocks, List.length_append]
  exact Nat.lt_succ_self _

/-- has the size that was asked for, -/
theorem byteLength_new (m : Memory) (a : AllocatorId) (limit : Number) (n : Nat) :
    (m.provided a limit n).byteLength ⟨m.blocks.length⟩ = n := by
  rw [byteLength, provided, contents_congr (setAllocator_blocks ..), contents_addBlock_self,
    List.length_replicate]

/-- and every other block is what it was. -/
theorem KeepsSizes.provided (m : Memory) (a : AllocatorId) (limit : Number) (n : Nat) :
    m.KeepsSizes (m.provided a limit n) := KeepsSizes.addBlock m _

/-- Handing out a block keeps all limits, -/
theorem HasLimits.provided {limit : Number} (hm : HasLimits limits m)
    (hl : limits[a.index]? = some limit) (n : Nat) : HasLimits limits (m.provided a limit n) :=
  HasLimits.setAllocator (hm.congr (addBlock_allocators ..)) (hm.heap hl)

/-- makes it live in its heap and in no other one, -/
theorem HasLimits.live_provided {limit : Number} (hm : HasLimits limits m)
    (hl : limits[a.index]? = some limit) (n : Nat) (a' : AllocatorId) :
    (m.provided a limit n).live a'
      = if a' = a then ⟨m.blocks.length⟩ :: m.live a else m.live a' := by
  have hlt : a.index < m.allocators.length := (List.getElem?_eq_some_iff.mp (hm.heap hl)).1
  rw [Memory.provided, live_setAllocator (by exact hlt)]
  rfl

/-- and counts its bytes there. -/
theorem HasLimits.liveBytes_provided {limit : Number} (hm : HasLimits limits m)
    (hl : limits[a.index]? = some limit) (n : Nat) (a' : AllocatorId) :
    (m.provided a limit n).liveBytes a' = if a' = a then m.liveBytes a + n else m.liveBytes a' := by
  have hlt : a.index < m.allocators.length := (List.getElem?_eq_some_iff.mp (hm.heap hl)).1
  rw [Memory.provided, liveBytes_setAllocator (by exact hlt)]
  rfl

/-- A heap hands out a block unless that exceeds its limit or there is no room for it. -/
theorem provide_heap {limit : Number} (hm : HasLimits limits m)
    (hl : limits[a.index]? = some limit) (n : Nat) :
    m.provide a n =
      if exceeds (m.liveBytes a + n) limit || m.capacity ≤ n then (m, none)
      else (m.provided a limit n, some ⟨m.blocks.length⟩) := by
  rw [provide, allocator_of_getElem? (hm.heap hl)]
  simp only [Int.toNat_natCast]
  split <;> rfl

/-- Where there is no allocator, no block is handed out. -/
theorem provide_dangling (h : m.allocators[a.index]? = none) (size : Int) :
    m.provide a size = (m, none) := by
  rw [provide, allocator_of_getElem?_none h]
  simp only [Allocator.empty, setAllocator_of_getElem?_none h]

/-- **A block that was handed out** is fresh, fits into the limit, and is live from then on. -/
theorem provide_some {n : Nat} (hm : HasLimits limits m) (h : m.provide a n = (m', some b)) :
    ∃ limit, limits[a.index]? = some limit ∧ exceeds (m.liveBytes a + n) limit = false
      ∧ n < m.capacity ∧ b = ⟨m.blocks.length⟩ ∧ m' = m.provided a limit n := by
  rcases hm.cases a with ⟨limit, -, -, hl, -⟩ | ⟨-, hat⟩
  · rw [provide_heap hm hl] at h
    split at h
    · simp at h
    · next hroom =>
      simp only [Bool.or_eq_true, decide_eq_true_eq, not_or, Bool.not_eq_true, Nat.not_le] at hroom
      simp only [Prod.mk.injEq, Option.some.injEq] at h
      exact ⟨limit, hl, hroom.1, hroom.2, h.2.symm, h.1.symm⟩
  · rw [provide_dangling hat] at h
    simp at h

/-- **A request that is not met** changes nothing. -/
theorem provide_none {n : Nat} (hm : HasLimits limits m) (h : m.provide a n = (m', none)) :
    m' = m ∧ ∀ limit, limits[a.index]? = some limit →
      exceeds (m.liveBytes a + n) limit = true ∨ m.capacity ≤ n := by
  rcases hm.cases a with ⟨limit, -, -, hl, -⟩ | ⟨hl, hat⟩
  · rw [provide_heap hm hl] at h
    split at h
    · next hfull =>
      simp only [Bool.or_eq_true, decide_eq_true_eq] at hfull
      simp only [Prod.mk.injEq, and_true] at h
      refine ⟨h.symm, ?_⟩
      intro limit' hl'
      rw [hl, Option.some.injEq] at hl'
      subst hl'
      exact hfull
    · simp at h
  · rw [provide_dangling hat] at h
    simp only [Prod.mk.injEq, and_true] at h
    exact ⟨h.symm, by simp [hl]⟩

/-! ## Returns -/

/-- A heap takes back exactly what is live in it. -/
theorem returnBlock_heap {limit : Number} (hm : HasLimits limits m)
    (hl : limits[a.index]? = some limit) (b : BlockId) :
    m.returnBlock a b =
      if (m.live a).contains b then
        (m.setAllocator a (.heap limit ((m.live a).erase b) (m.liveBytes a - m.byteLength b)),
          .ok ())
      else (m, .error .notLive) := by
  rw [returnBlock, allocator_of_getElem? (hm.heap hl)]
  rfl

/-- Where there is no allocator, a return is let be. -/
theorem returnBlock_dangling (h : m.allocators[a.index]? = none) (b : BlockId) :
    m.returnBlock a b = (m, .ok ()) := by
  rw [returnBlock, allocator_of_getElem?_none h]
  simp only [Allocator.empty, setAllocator_of_getElem?_none h]

/-- **A block that was taken back** was live, and is not any more. -/
theorem returnBlock_ok (hm : HasLimits limits m) (h : m.returnBlock a b = (m', .ok ())) :
    (∃ limit, limits[a.index]? = some limit ∧ b ∈ m.live a
      ∧ m' = m.setAllocator a
          (.heap limit ((m.live a).erase b) (m.liveBytes a - m.byteLength b)))
    ∨ (limits[a.index]? = none ∧ m' = m) := by
  rcases hm.cases a with ⟨limit, -, -, hl, -⟩ | ⟨hl, hat⟩
  · rw [returnBlock_heap hm hl] at h
    split at h
    · next hlive =>
      simp only [Prod.mk.injEq, and_true] at h
      exact Or.inl ⟨limit, hl, List.contains_iff_mem.mp hlive, h.symm⟩
    · simp at h
  · rw [returnBlock_dangling hat] at h
    simp only [Prod.mk.injEq, and_true] at h
    exact Or.inr ⟨hl, h.symm⟩

/-- **A block that was refused** was not live, and nothing changed. -/
theorem returnBlock_error {fault : MemoryFault} (hm : HasLimits limits m)
    (h : m.returnBlock a b = (m', .error fault)) : m' = m ∧ fault = .notLive ∧ b ∉ m.live a := by
  rcases hm.cases a with ⟨limit, -, -, hl, -⟩ | ⟨-, hat⟩
  · rw [returnBlock_heap hm hl] at h
    split at h
    · simp at h
    · next hlive =>
      simp only [Prod.mk.injEq, Except.error.injEq] at h
      exact ⟨h.1.symm, h.2.symm, fun hb => hlive (List.contains_iff_mem.mpr hb)⟩
  · rw [returnBlock_dangling hat] at h
    simp at h

/-- A release succeeds exactly when the block is live in the heap. -/
theorem returnBlock_eq_ok_iff {limit : Number} (hm : HasLimits limits m)
    (hl : limits[a.index]? = some limit) (b : BlockId) :
    (m.returnBlock a b).2 = .ok () ↔ b ∈ m.live a := by
  rw [returnBlock_heap hm hl]
  split
  · next hlive => exact ⟨fun _ => List.contains_iff_mem.mp hlive, fun _ => rfl⟩
  · next hlive =>
    refine ⟨fun h => by simp at h, ?_⟩
    exact fun hb => absurd (List.contains_iff_mem.mpr hb) hlive

/-! ## Strings -/

/-- The memory once a text was written into a block and a string was put around it. -/
def written (m : Memory) (b : BlockId) (text : Text) (a : AllocatorId) : Memory :=
  ((m.setContents b (terminated (m.contents b) (Utf8.encode text))).wrap b a).1

/-- A text with a zero unit is refused. -/
theorem createString_nul {text : Text} (h : text.contains 0 = true) :
    m.createString text a = (m, .error .embeddedNul) := by
  rw [createString, if_pos h]

/-- Any other text asks for room for its bytes and one more. -/
theorem createString_request {text : Text} (h : text.contains 0 = false) :
    m.createString text a =
      match m.provide a ((Utf8.encode text).length + 1 : Nat) with
      | (m₁, none) => (m₁, .ok none)
      | (m₁, some b) =>
        if (m₁.contents b).length < (Utf8.encode text).length then (m₁, .error .blockTooShort)
        else (m₁.written b text a, .ok (some ⟨m₁.strings.length⟩)) := by
  rw [createString, if_neg (by rw [h]; exact Bool.false_ne_true)]
  rfl

@[simp] theorem written_allocators (m : Memory) (b : BlockId) (text : Text) (a : AllocatorId) :
    (m.written b text a).allocators = m.allocators := rfl

@[simp] theorem written_strings (m : Memory) (b : BlockId) (text : Text) (a : AllocatorId) :
    (m.written b text a).strings = m.strings ++ [⟨b, a, false⟩] := rfl

/-- Writing a text with its zero byte into a block does not change how long it is, if there is room
for the text. -/
theorem KeepsSizes.written {text : Text} (h : (Utf8.encode text).length ≤ m.byteLength b) :
    m.KeepsSizes (m.written b text a) := by
  refine KeepsSizes.setContents ?_
  rw [terminated, List.length_set, overwrite, List.length_append, List.length_drop, ← byteLength]
  omega

/-- **A string that was made** has its block from a request for the bytes of the text and one more.
-/
theorem createString_some {text : Text} {s : StringId}
    (h : m.createString text a = (m', .ok (some s))) :
    ∃ m₁ b, text.contains 0 = false
      ∧ m.provide a ((Utf8.encode text).length + 1 : Nat) = (m₁, some b)
      ∧ (Utf8.encode text).length ≤ (m₁.contents b).length
      ∧ s = ⟨m₁.strings.length⟩ ∧ m' = m₁.written b text a := by
  cases hnul : text.contains 0 with
  | true => simp [createString_nul hnul] at h
  | false =>
    rw [createString_request hnul] at h
    split at h
    · simp at h
    · next m₁ b hp =>
      split at h
      · simp at h
      · next hroom =>
        simp only [Prod.mk.injEq, Except.ok.injEq, Option.some.injEq] at h
        exact ⟨m₁, b, rfl, hp, Nat.le_of_not_lt hroom, h.2.symm, h.1.symm⟩

/-- The block that a heap provides is as long as it was asked to be. -/
theorem byteLength_provided {n : Nat} (hm : HasLimits limits m)
    (h : m.provide a n = (m', some b)) : m'.byteLength b = n := by
  obtain ⟨limit, -, -, -, rfl, rfl⟩ := provide_some hm h
  exact byteLength_new m a limit n

/-- **A text that gets no string** from a heap leaves no trace, whether it is refused or there is no
room for it. -/
theorem createString_fails {text : Text} (hm : HasLimits limits m)
    (h : ∀ s, (m.createString text a).2 ≠ .ok (some s)) : (m.createString text a).1 = m := by
  cases hnul : text.contains 0 with
  | true => rw [createString_nul hnul]
  | false =>
    rw [createString_request hnul] at h ⊢
    split at h
    · next m₁ hp =>
      exact (provide_none hm hp).1
    · next m₁ b hp =>
      have hlen : (m₁.contents b).length = (Utf8.encode text).length + 1 :=
        byteLength_provided hm hp
      rw [if_neg (by omega)] at h
      exact absurd rfl (h _)

end Turnstile.Memory
