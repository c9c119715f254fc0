import Turnstile.Proofs.Memory.StringLife
import Turnstile.Proofs.Memory.Transition

/-! # Strings that are made and released

A string that is made in an allocator and released at once leaves the accounts of all allocators as
they were, and so does a text that gets no string. Nothing is asked of the memory: the allocator can
be a heap in any state or any other allocator.

* **`SameAccounts`** says that two memories agree on what is live, and **`sameAccounts_released`** and
  **`sameAccounts_unmade`** are about the making of a string.
* **`Remembers`** says that a later memory knows the strings of an earlier one and does not bring a
  released one back; **`Remembers.run`** says so of every run. -/

namespace Turnstile

/-- An allocator that is no heap; nothing in it counts as live. -/
def Allocator.IsSupplied : Allocator → Prop
  | .heap .. => False
  | .supplied .. => True

namespace Memory

variable {m m' m'' : Memory} {a : AllocatorId} {b : BlockId} {s : StringId} {text : Text}

/-! ## The same accounts -/

/-- **Two memories with the same accounts**: the same blocks are live in every allocator, and it
counts as many bytes. -/
structure SameAccounts (m m' : Memory) : Prop where
  live : ∀ a, m'.live a = m.live a
  bytes : ∀ a, m'.liveBytes a = m.liveBytes a

namespace SameAccounts

theorem refl (m : Memory) : SameAccounts m m := ⟨fun _ => rfl, fun _ => rfl⟩

theorem trans (h : SameAccounts m m') (h' : SameAccounts m' m'') : SameAccounts m m'' :=
  ⟨fun a => (h'.live a).trans (h.live a), fun a => (h'.bytes a).trans (h.bytes a)⟩

/-- The accounts are those of the allocators. -/
theorem of_allocators (h : m'.allocators = m.allocators) : SameAccounts m m' := by
  refine ⟨fun a => ?_, fun a => ?_⟩
  · rw [Memory.live, allocator_congr h, Memory.live]
  · rw [liveBytes, allocator_congr h, liveBytes]

/-- An allocator without accounts can be in any state without accounts. -/
theorem setAllocator {state : Allocator} (h : (m.allocator a).IsSupplied) (hstate : state.IsSupplied) :
    SameAccounts m (m.setAllocator a state) := by
  cases hat : m.allocators[a.index]? with
  | none =>
    rw [setAllocator_of_getElem?_none hat]
    exact refl m
  | some before =>
    have hlt := (List.getElem?_eq_some_iff.mp hat).1
    have hnothing : ∀ {state : Allocator}, state.IsSupplied →
        state.live = [] ∧ state.bytesInUse = 0 := by
      intro state hstate
      cases state with
      | heap => exact absurd hstate id
      | supplied => exact ⟨rfl, rfl⟩
    obtain ⟨hlive, hbytes⟩ := hnothing h
    obtain ⟨hlive', hbytes'⟩ := hnothing hstate
    refine ⟨fun a' => ?_, fun a' => ?_⟩
    · rw [Memory.live, allocator_setAllocator hlt, Memory.live]
      split
      · next heq => rw [heq, hlive', hlive]
      · rfl
    · rw [liveBytes, allocator_setAllocator hlt, liveBytes]
      split
      · next heq => rw [heq, hbytes', hbytes]
      · rfl

end SameAccounts

/-! ## Allocators that are no heaps -/

/-- Such an allocator stays one when it is put into another state. -/
theorem isSupplied_setAllocator {state : Allocator} (h : (m.allocator a).IsSupplied)
    (hstate : state.IsSupplied) : ((m.setAllocator a state).allocator a).IsSupplied := by
  cases hat : m.allocators[a.index]? with
  | none => rwa [setAllocator_of_getElem?_none hat]
  | some before =>
    rwa [allocator_setAllocator (List.getElem?_eq_some_iff.mp hat).1, if_pos rfl]

/-- Its blocks come and go without accounts. -/
theorem sameAccounts_provide (h : (m.allocator a).IsSupplied) (size : Int) :
    SameAccounts m (m.provide a size).1 ∧ ((m.provide a size).1.allocator a).IsSupplied := by
  rw [provide]
  split
  · next hheap =>
    rw [hheap] at h
    exact absurd h id
  · next supply requests returns _ =>
    have hset : SameAccounts m (m.setAllocator a (.supplied supply (requests + 1) returns)) :=
      .setAllocator h trivial
    have hsupplied : ((m.setAllocator a (.supplied supply (requests + 1) returns)).allocator
        a).IsSupplied := isSupplied_setAllocator h trivial
    dsimp only
    split
    · exact ⟨hset, hsupplied⟩
    · refine ⟨hset.trans (.of_allocators (addBlock_allocators ..)), ?_⟩
      rwa [allocator_congr (addBlock_allocators ..)]

theorem sameAccounts_returnBlock (h : (m.allocator a).IsSupplied) (b : BlockId) :
    SameAccounts m (m.returnBlock a b).1 := by
  rw [returnBlock]
  split
  · next hheap =>
    rw [hheap] at h
    exact absurd h id
  · exact .setAllocator h trivial

/-! ## Heaps -/

section

variable {limit : Number} {live : List BlockId} {used : Nat}

/-- A heap is in the table of allocators. -/
theorem getElem?_of_heap (h : m.allocator a = .heap limit live used) :
    m.allocators[a.index]? = some (.heap limit live used) := by
  cases hat : m.allocators[a.index]? with
  | none =>
    rw [allocator_of_getElem?_none hat] at h
    exact absurd h nofun
  | some state => rw [← allocator_of_getElem? hat, h]

/-- What a heap is like once it handed out a block. -/
theorem provided_eq (h : m.allocator a = .heap limit live used) (n : Nat) :
    m.provided a limit n
      = (m.addBlock (List.replicate n 0)).1.setAllocator a
          (.heap limit (⟨m.blocks.length⟩ :: live) (used + n)) := by
  rw [provided, Memory.live, liveBytes, h]
  rfl

/-- **A heap answers a request** with nothing or with a fresh block. -/
theorem provide_of_heap (h : m.allocator a = .heap limit live used) (n : Nat) :
    m.provide a n = (m, none) ∨ m.provide a n = (m.provided a limit n, some ⟨m.blocks.length⟩) := by
  rw [provide, h, provided_eq h]
  simp only [Int.toNat_natCast]
  split
  · exact Or.inl rfl
  · exact Or.inr rfl

/-- **The block that a heap handed out last**, given back with all its bytes: the allocators are what
they were before. -/
theorem allocators_returnBlock (h : m.allocator a = .heap limit live used) {n : Nat}
    (hallocators : m'.allocators = (m.provided a limit n).allocators)
    (hsize : (m'.contents ⟨m.blocks.length⟩).length = n) :
    (m'.returnBlock a ⟨m.blocks.length⟩).1.allocators = m.allocators := by
  obtain ⟨hlt, hat⟩ := List.getElem?_eq_some_iff.mp (getElem?_of_heap h)
  have hadded : a.index < (m.addBlock (List.replicate n 0)).1.allocators.length := hlt
  have hheap : m'.allocator a = .heap limit (⟨m.blocks.length⟩ :: live) (used + n) := by
    rw [allocator_congr hallocators, provided_eq h, allocator_setAllocator hadded, if_pos rfl]
  rw [returnBlock, hheap]
  simp only [List.contains_cons, beq_self_eq_true, Bool.true_or, if_true, List.erase_cons_head, hsize,
    Nat.add_sub_cancel, setAllocator_allocators, hallocators, provided_eq h, addBlock_allocators,
    List.set_set]
  rw [← hat, List.set_getElem_self]

end

/-! ## Strings -/

/-- **A string that is made and released** leaves the accounts as they were. -/
theorem sameAccounts_released (h : m.createString text a = (m', .ok (some s))) :
    SameAccounts m (m'.releaseString s).1 := by
  obtain ⟨m₁, b, -, hprovide, hroom, rfl, rfl⟩ := createString_some h
  have hstring : (m₁.written b text a).string ⟨m₁.strings.length⟩ = ⟨b, a, false⟩ :=
    string_written m₁ b text a
  have hrelease : (m₁.written b text a).releaseString ⟨m₁.strings.length⟩
      = ((m₁.written b text a).markReleased ⟨m₁.strings.length⟩).returnBlock a b := by
    rw [releaseString, hstring, if_neg Bool.false_ne_true]
  rw [hrelease]
  cases hstate : m.allocator a with
  | heap limit live used =>
    rcases provide_of_heap hstate ((Utf8.encode text).length + 1) with hnone | hsome
    · rw [hnone] at hprovide
      simp at hprovide
    · rw [hsome] at hprovide
      simp only [Prod.mk.injEq, Option.some.injEq] at hprovide
      obtain ⟨rfl, rfl⟩ := hprovide
      -- Writing into the block does not change how long it is, so all its bytes are given back.
      have hkept := KeepsSizes.written (a := a) hroom _
        (holds_provided m a limit ((Utf8.encode text).length + 1))
      rw [byteLength_new] at hkept
      exact .of_allocators (allocators_returnBlock hstate rfl hkept.2)
  | supplied supply requests returns =>
    have hsupplied : (m.allocator a).IsSupplied := by
      rw [hstate]
      trivial
    obtain ⟨haccounts, hstill⟩ := sameAccounts_provide hsupplied ((Utf8.encode text).length + 1 : Nat)
    rw [hprovide] at haccounts hstill
    have hmarked : ((m₁.written b text a).markReleased ⟨m₁.strings.length⟩).allocators
        = m₁.allocators := rfl
    refine (haccounts.trans (.of_allocators hmarked)).trans (sameAccounts_returnBlock ?_ b)
    rwa [allocator_congr hmarked]

/-- **A text that gets no string** leaves them as they were too. -/
theorem sameAccounts_unmade (h : ∀ s, (m.createString text a).2 ≠ .ok (some s)) :
    SameAccounts m (m.createString text a).1 := by
  cases hnul : text.contains 0 with
  | true =>
    rw [createString_nul hnul]
    exact .refl m
  | false =>
    rw [createString_request hnul] at h ⊢
    cases hstate : m.allocator a with
    | heap limit live used =>
      rcases provide_of_heap hstate ((Utf8.encode text).length + 1) with hnone | hsome
      · rw [hnone]
        exact .refl m
      · -- A heap gives as many bytes as it is asked for, so that there would be a string.
        have hsize : ((m.provided a limit ((Utf8.encode text).length + 1)).contents
            ⟨m.blocks.length⟩).length = (Utf8.encode text).length + 1 := byteLength_new m a limit _
        rw [hsome] at h
        simp only [hsize] at h
        rw [if_neg (by omega)] at h
        exact absurd rfl (h _)
    | supplied supply requests returns =>
      have hsupplied : (m.allocator a).IsSupplied := by
        rw [hstate]
        trivial
      have haccounts := (sameAccounts_provide hsupplied ((Utf8.encode text).length + 1 : Nat)).1
      split
      · next hprovide =>
        rw [hprovide] at haccounts
        exact haccounts
      · next hprovide =>
        rw [hprovide] at haccounts
        split
        · exact haccounts
        · exact haccounts.trans (.of_allocators rfl)

/-! ## Strings that are remembered -/

/-- **A later memory that remembers the strings of an earlier one**: it knows them, and what was
released stays released. -/
structure Remembers (m m' : Memory) : Prop where
  knows : ∀ s, m.Knows s → m'.Knows s
  released : ∀ s, m.Knows s → (m.string s).released = true → (m'.string s).released = true

namespace Remembers

theorem refl (m : Memory) : Remembers m m := ⟨fun _ => id, fun _ _ => id⟩

theorem trans (h : Remembers m m') (h' : Remembers m' m'') : Remembers m m'' where
  knows s hs := h'.knows s (h.knows s hs)
  released s hs hreleased := h'.released s (h.knows s hs) (h.released s hs hreleased)

/-- **Every operation leaves a memory that remembers the strings.** -/
theorem perform (m : Memory) (operation : Operation) : Remembers m (m.perform operation).1 where
  knows _ hs := hs.perform operation
  released _ hs hreleased := (string_perform hs operation).2.2.mpr (Or.inl hreleased)

/-- So does every run. -/
theorem run (m : Memory) (operations : List Operation) : Remembers m (m.run operations).1 := by
  induction operations generalizing m with
  | nil => exact refl m
  | cons operation rest ih => exact (perform m operation).trans (ih _)

end Remembers

/-- A string that is not released is known. -/
theorem knows_of_not_released (h : (m.string s).released = false) : m.Knows s := by
  by_contra hnot
  rw [released_of_not_knows hnot] at h
  exact Bool.noConfusion h

/-- **A string that was released just now** is known and released. -/
theorem released_releaseString (h : (m.string s).released = false) :
    (m.releaseString s).1.Knows s ∧ ((m.releaseString s).1.string s).released = true := by
  have hknows := knows_of_not_released h
  have hperform : (m.perform (.release (some s))).1 = (m.releaseString s).1 := rfl
  rw [← hperform]
  exact ⟨hknows.perform _, (string_perform hknows _).2.2.mpr (Or.inr rfl)⟩

end Memory

end Turnstile
