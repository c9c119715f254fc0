import Turnstile.Proofs.Memory.StringLife

/-! # A string gives its block back once

The first attempt to release a string marks it and hands its block to its allocator, whatever the
allocator says to that; from then on the string answers nothing but that it is released. Allocators
of any kind take part, those that throw included, and what an allocator does besides answering is
more operations of the run.

* **`Return`** is a call that hands a block back to an allocator, and **`returns`** lists the calls
  of a run.
* **`Usable`** and **`Spent`** say what a string answers before and after the first attempt, and
  **`OnlyMarks`** what is left of an attempt that the allocator refused.
* **`ReleasesOnce`** puts this together for a run, and **`strings_release_once`** says that it holds
  of every run. -/

namespace Turnstile

/-- An allocator after a return that it did not take: a heap is as it was, any other one has counted
the call. -/
def Allocator.called : Allocator → Allocator
  | .heap limit live used => .heap limit live used
  | .supplied supply requests returns => .supplied supply requests (returns + 1)

/-- What an allocator throws when it does not take a block: a heap says that the block is not live,
any other one throws what it likes. -/
def Allocator.Throws : Allocator → MemoryFault → Prop
  | .heap .., fault => fault = .notLive
  | .supplied .., fault => ∃ thrown, fault = .refused thrown

namespace Memory

variable {m m' : Memory} {a a' : AllocatorId} {b : BlockId} {s s' : StringId}
  {operation : Operation}

/-- A memory with allocators of any kind, and nothing else. -/
def ofAllocators (capacity : Nat) (allocators : List Allocator) : Memory :=
  ⟨[], allocators, [], capacity⟩

/-! ## The calls of a run -/

/-- A **call that hands a block back** to an allocator, by a string that is released or as it is. -/
structure Return where
  string : Option StringId
  allocator : AllocatorId
  block : BlockId
  deriving DecidableEq

/-- The call by which an operation hands a block back, if it makes one. -/
def return? (m : Memory) : Operation → Option Return
  | .returnBlock a b => some ⟨none, a, b⟩
  | .release (some s) =>
    if (m.string s).released then none
    else some ⟨some s, (m.string s).allocator, (m.string s).block⟩
  | _ => none

/-- **The calls of a run** that hand blocks back, in order. -/
def returns (m : Memory) (operations : List Operation) : List Return := record return? m operations

theorem returns_concat (m : Memory) (first : List Operation) (operation : Operation) :
    m.returns (first ++ [operation])
      = m.returns first ++ ((m.run first).1.return? operation).toList :=
  record_concat return? m first operation

/-- A call by a string comes with a release of it, and hands its own block to its own allocator. -/
theorem return?_of_string {r : Return} (h : m.return? operation = some r)
    (hs : r.string = some s) :
    operation = .release (some s) ∧ (m.string s).released = false
      ∧ r = ⟨some s, (m.string s).allocator, (m.string s).block⟩ := by
  cases operation with
  | release string =>
    cases string with
    | none => simp [return?] at h
    | some s' =>
      simp only [return?, Option.ite_none_left_eq_some, Option.some.injEq,
        Bool.not_eq_true] at h
      obtain ⟨hlive, rfl⟩ := h
      obtain rfl := Option.some.inj hs
      exact ⟨rfl, hlive, rfl⟩
  | returnBlock a b =>
    obtain rfl := Option.some.inj h
    simp at hs
  | _ => simp [return?] at h

/-- An operation makes a call for a string exactly when it tries to release it, and it was not
released. -/
theorem return?_filter (m : Memory) (operation : Operation) (s : StringId) :
    (m.return? operation).toList.filter (fun r => r.string = some s)
      = if m.attempt? operation = some s ∧ (m.string s).released = false then
          [⟨some s, (m.string s).allocator, (m.string s).block⟩]
        else [] := by
  by_cases h : m.attempt? operation = some s ∧ (m.string s).released = false
  · obtain ⟨rfl, -⟩ := attempt?_eq_some.mp h.1
    rw [if_pos h]
    simp [return?, h.2]
  · rw [if_neg h, List.filter_eq_nil_iff]
    intro r hr hs
    obtain ⟨hrelease, hlive, -⟩ :=
      return?_of_string (Option.mem_toList.mp hr) (of_decide_eq_true hs)
    have hknows : m.Knows s := by
      by_contra hnot
      rw [released_of_not_knows hnot] at hlive
      exact Bool.noConfusion hlive
    exact h ⟨attempt?_eq_some.mpr ⟨hrelease, hknows⟩, hlive⟩

/-- **The calls for a string**: one when someone tried to release it, with its own block to its own
allocator, and none otherwise. -/
theorem returns_of_string {start : Memory} (hstart : start.strings = [])
    (operations : List Operation) (s : StringId) :
    (start.returns operations).filter (fun r => r.string = some s)
      = if s ∈ start.attempts operations then
          [⟨some s, ((start.run operations).1.string s).allocator,
            ((start.run operations).1.string s).block⟩]
        else [] := by
  induction operations using List.reverseRecOn with
  | nil => rfl
  | append_singleton first operation ih =>
    rw [returns_concat, List.filter_append, ih, return?_filter, run_concat]
    simp only [mem_attempts_concat]
    by_cases hbefore : s ∈ start.attempts first
    · -- The call was made before, and there is no other one.
      have hknows := knows_of_mem_attempts hbefore
      obtain ⟨hblock, hallocator, -⟩ := string_perform hknows operation
      have hreleased := (released_iff_mem_attempts hstart hknows).mpr hbefore
      rw [if_pos hbefore, if_pos (Or.inl hbefore), hblock, hallocator, hreleased]
      simp
    · rw [if_neg hbefore, List.nil_append]
      by_cases hnow : (start.run first).1.attempt? operation = some s
      · -- This is the first attempt, so the string is not released yet.
        obtain ⟨-, hknows⟩ := attempt?_eq_some.mp hnow
        obtain ⟨hblock, hallocator, -⟩ := string_perform hknows operation
        have hlive : ((start.run first).1.string s).released = false := by
          rw [← Bool.not_eq_true, released_iff_mem_attempts hstart hknows]
          exact hbefore
        rw [if_pos ⟨hnow, hlive⟩, if_pos (Or.inr hnow), hblock, hallocator]
      · rw [if_neg fun h => hnow h.1, if_neg fun h => h.elim hbefore hnow]

/-! ## The calls that allocators count -/

/-- The state of an allocator after another one changed, -/
theorem getElem?_setAllocator_ne (hne : a' ≠ a) (state : Allocator) :
    (m.setAllocator a' state).allocators[a.index]? = m.allocators[a.index]? :=
  List.getElem?_set_ne fun h => hne (AllocatorId.ext h)

/-- and after it changed itself. -/
theorem getElem?_setAllocator_self {state : Allocator} (h : m.allocators[a.index]? = some state)
    (state' : Allocator) : (m.setAllocator a state').allocators[a.index]? = some state' :=
  List.getElem?_set_self (List.getElem?_eq_some_iff.mp h).1

variable {supply : Supplier} {requests count : Nat}

/-- A request changes no count of returns. -/
theorem supplied_provide (h : m.allocators[a.index]? = some (.supplied supply requests count))
    (a' : AllocatorId) (size : Int) :
    ∃ requests', (m.provide a' size).1.allocators[a.index]?
      = some (.supplied supply requests' count) := by
  have hstate := allocator_of_getElem? h
  by_cases ha : a' = a
  · subst ha
    refine ⟨requests + 1, ?_⟩
    rw [provide, hstate]
    dsimp only
    split <;> exact getElem?_setAllocator_self h _
  · refine ⟨requests, ?_⟩
    rw [provide]
    split
    · split
      · exact h
      · exact (getElem?_setAllocator_ne ha _).trans h
    · dsimp only
      split <;> exact (getElem?_setAllocator_ne ha _).trans h

/-- The making of a string changes allocators by its request alone. -/
theorem createString_allocators (m : Memory) (text : Text) (a : AllocatorId) :
    (m.createString text a).1.allocators = m.allocators
      ∨ (m.createString text a).1.allocators
          = (m.provide a ((Utf8.encode text).length + 1 : Nat)).1.allocators := by
  cases hnul : text.contains 0 with
  | true => exact Or.inl (by rw [createString_nul hnul])
  | false =>
    refine Or.inr ?_
    rw [createString_request hnul]
    split
    · next hp => rw [hp]
    · next hp =>
      rw [hp]
      split
      · rfl
      · rw [written_allocators]

/-- **An allocator that counts its returns** counts each call that hands it a block. -/
theorem supplied_returnBlock (h : m.allocators[a.index]? = some (.supplied supply requests count))
    (a' : AllocatorId) (b : BlockId) :
    (m.returnBlock a' b).1.allocators[a.index]?
      = some (.supplied supply requests (count + if a' = a then 1 else 0)) := by
  have hstate := allocator_of_getElem? h
  by_cases ha : a' = a
  · subst ha
    rw [returnBlock, hstate, if_pos rfl]
    exact getElem?_setAllocator_self h _
  · rw [returnBlock, if_neg ha, Nat.add_zero]
    split
    · split
      · exact (getElem?_setAllocator_ne ha _).trans h
      · exact h
    · exact (getElem?_setAllocator_ne ha _).trans h

theorem supplied_perform (h : m.allocators[a.index]? = some (.supplied supply requests count))
    (operation : Operation) :
    ∃ requests', (m.perform operation).1.allocators[a.index]?
      = some (.supplied supply requests'
          (count + (m.return? operation).toList.countP (fun r => r.allocator = a))) := by
  cases operation with
  | allocate a' size =>
    simp only [perform, allocate]
    split
    · split
      · exact ⟨requests, h⟩
      · exact supplied_provide h a' _
    · exact supplied_provide h a' _
  | returnBlock a' b =>
    refine ⟨requests, ?_⟩
    have hreturn := supplied_returnBlock h a' b
    simpa [perform, return?, List.countP_cons] using hreturn
  | create text a' =>
    rcases createString_allocators m text a' with hsame | hsame
    · exact ⟨requests, (congrArg (·[a.index]?) hsame).trans h⟩
    · obtain ⟨requests', hprovide⟩ := supplied_provide h a' ((Utf8.encode text).length + 1 : Nat)
      exact ⟨requests', (congrArg (·[a.index]?) hsame).trans hprovide⟩
  | release string =>
    refine ⟨requests, ?_⟩
    cases string with
    | none => exact h
    | some s =>
      simp only [perform, release, releaseString, return?]
      split
      · exact h
      · have hreturn := supplied_returnBlock (m := m.markReleased s) h (m.string s).allocator
          (m.string s).block
        simpa [List.countP_cons] using hreturn
  | poke b index value =>
    refine ⟨requests, ?_⟩
    rw [perform, poke_allocators]
    exact h
  | adopt bytes => exact ⟨requests, h⟩
  | wrap b a' => exact ⟨requests, h⟩
  | isReleased s => exact ⟨requests, h⟩
  | readText s => exact ⟨requests, h⟩
  | readLength s => exact ⟨requests, h⟩
  | readBlock s => exact ⟨requests, h⟩

/-- **No call is left out**: an allocator that counts its returns counts those of a run, one by one.
-/
theorem supplied_run (h : m.allocators[a.index]? = some (.supplied supply requests count))
    (operations : List Operation) :
    ∃ requests', (m.run operations).1.allocators[a.index]?
      = some (.supplied supply requests'
          (count + (m.returns operations).countP (fun r => r.allocator = a))) := by
  induction operations using List.reverseRecOn with
  | nil => exact ⟨requests, h⟩
  | append_singleton first operation ih =>
    obtain ⟨requests', hfirst⟩ := ih
    obtain ⟨requests'', hstep⟩ := supplied_perform hfirst operation
    refine ⟨requests'', ?_⟩
    rw [run_concat, returns_concat, List.countP_append, ← Nat.add_assoc]
    exact hstep

/-! ## Before and after the first attempt -/

/-- **Nothing but the mark of one string** tells the second memory from the first; the allocator of
the string has been called. -/
structure OnlyMarks (m m' : Memory) (s : StringId) : Prop where
  /-- No block is touched, -/
  blocks : m'.blocks = m.blocks
  /-- the string is marked, -/
  string : m'.string s = ⟨(m.string s).block, (m.string s).allocator, true⟩
  /-- no other string is, -/
  others : ∀ s', s' ≠ s → m'.string s' = m.string s'
  /-- and heaps are as they were; an allocator that counts its returns has counted this one. -/
  allocators : ∀ a, m'.allocator a =
    if a = (m.string s).allocator then (m.allocator a).called else m.allocator a
  /-- So the accounts of all heaps are as they were. -/
  accounts : ∀ a, m'.live a = m.live a ∧ m'.liveBytes a = m.liveBytes a

/-- **What a string answers before the first attempt** to release it: everything. -/
structure Usable (m : Memory) (s : StringId) : Prop where
  flag : m.perform (.isReleased s) = (m, .ok (.flag false))
  block : m.perform (.readBlock s) = (m, .ok (.block (some (m.string s).block)))
  length : m.perform (.readLength s)
    = (m, .ok (.length ((m.byteLength (m.string s).block : Int) - 1)))
  text : m.perform (.readText s)
    = (m, .ok (.text (Utf8.read (m.contents (m.string s).block).dropLast)))
  /-- The first attempt marks the string and hands its block to its allocator, -/
  release : m.perform (.release (some s)) =
    (((m.markReleased s).returnBlock (m.string s).allocator (m.string s).block).1,
      ((m.markReleased s).returnBlock (m.string s).allocator (m.string s).block).2.map
        fun _ => .done)
  /-- and if the allocator throws, the mark is all that is left of it. -/
  refused : ∀ fault, (m.perform (.release (some s))).2 = .error fault →
    (m.allocator (m.string s).allocator).Throws fault
      ∧ m.OnlyMarks (m.perform (.release (some s))).1 s

/-- **What a string answers after the first attempt** to release it: that it is released. -/
structure Spent (m : Memory) (s : StringId) : Prop where
  flag : m.perform (.isReleased s) = (m, .ok (.flag true))
  block : m.perform (.readBlock s) = (m, .error .usedAfterRelease)
  length : m.perform (.readLength s) = (m, .error .usedAfterRelease)
  text : m.perform (.readText s) = (m, .error .usedAfterRelease)
  release : m.perform (.release (some s)) = (m, .error .alreadyReleased)

/-- A string depends on the strings, and on how many blocks and allocators there are. -/
theorem string_congr (hstrings : m'.strings = m.strings) (hblocks : m'.blocks = m.blocks)
    (hallocators : m'.allocators.length = m.allocators.length) (s : StringId) :
    m'.string s = m.string s := by
  rw [Memory.string, Memory.string, hstrings, hblocks, hallocators]

/-- A string marked, and the others. -/
theorem string_markReleased (m : Memory) (s s' : StringId) :
    (m.markReleased s).string s'
      = if s' = s then ⟨(m.string s).block, (m.string s).allocator, true⟩ else m.string s' := by
  rw [Memory.string, markReleased, List.getElem?_modify]
  by_cases heq : s' = s
  · subst heq
    rw [if_pos rfl, Memory.string]
    cases m.strings[s'.index]? <;> simp
  · have hindex : ¬ s.index = s'.index := fun h => heq (StringId.ext h.symm)
    rw [if_neg heq, Memory.string]
    cases m.strings[s'.index]? <;> simp [hindex]

theorem returnBlock_allocators_length (m : Memory) (a : AllocatorId) (b : BlockId) :
    (m.returnBlock a b).1.allocators.length = m.allocators.length := by
  unfold returnBlock
  split
  · split
    · exact List.length_set
    · rfl
  · exact List.length_set

/-- **A block that is refused**: a heap has not changed, and any other allocator counted the call. -/
theorem allocator_of_refused {fault : MemoryFault} (h : (m.returnBlock a b).2 = .error fault) :
    (m.allocator a).Throws fault
      ∧ ∀ a', (m.returnBlock a b).1.allocator a'
          = if a' = a then (m.allocator a').called else m.allocator a' := by
  cases hat : m.allocators[a.index]? with
  | none => simp [returnBlock_dangling hat] at h
  | some state =>
    have hlt := (List.getElem?_eq_some_iff.mp hat).1
    have hstate := allocator_of_getElem? hat
    cases state with
    | heap limit live used =>
      simp only [returnBlock, hstate] at h ⊢
      split at h
      · simp at h
      · next hnot =>
        rw [if_neg hnot]
        refine ⟨(Except.error.inj h).symm, fun a' => ?_⟩
        split
        · next heq => rw [heq, hstate, Allocator.called]
        · rfl
    | supplied supply requests count =>
      simp only [returnBlock, hstate] at h ⊢
      split at h
      · simp at h
      · next thrown _ =>
        refine ⟨⟨thrown, (Except.error.inj h).symm⟩, fun a' => ?_⟩
        rw [allocator_setAllocator hlt]
        split
        · next heq => rw [heq, hstate, Allocator.called]
        · rfl

theorem called_live (state : Allocator) : state.called.live = state.live := by
  cases state <;> rfl

theorem called_bytesInUse (state : Allocator) : state.called.bytesInUse = state.bytesInUse := by
  cases state <;> rfl

/-- **A release that the allocator refuses leaves nothing but the mark.** -/
theorem onlyMarks_of_refused {fault : MemoryFault} (hs : (m.string s).released = false)
    (h : (m.releaseString s).2 = .error fault) :
    (m.allocator (m.string s).allocator).Throws fault ∧ m.OnlyMarks (m.releaseString s).1 s := by
  have hrelease : m.releaseString s
      = (m.markReleased s).returnBlock (m.string s).allocator (m.string s).block := by
    rw [releaseString, hs, if_neg Bool.false_ne_true]
  rw [hrelease] at h ⊢
  obtain ⟨hthrows, hallocators⟩ := allocator_of_refused h
  have hmarked : ∀ a, (m.markReleased s).allocator a = m.allocator a :=
    allocator_congr (markReleased_allocators m s)
  have hstring : ∀ s', ((m.markReleased s).returnBlock (m.string s).allocator
      (m.string s).block).1.string s' = (m.markReleased s).string s' :=
    string_congr (returnBlock_strings ..) (returnBlock_blocks ..)
      (returnBlock_allocators_length ..)
  simp only [hmarked] at hthrows hallocators
  refine ⟨hthrows, ?_, ?_, ?_, hallocators, ?_⟩
  · rw [returnBlock_blocks, markReleased_blocks]
  · rw [hstring, string_markReleased, if_pos rfl]
  · intro s' hne
    rw [hstring, string_markReleased, if_neg hne]
  · intro a
    rw [Memory.live, liveBytes, hallocators, Memory.live, liveBytes]
    split
    · rw [called_live, called_bytesInUse]
      exact ⟨rfl, rfl⟩
    · exact ⟨rfl, rfl⟩

/-- A string that is not released is usable. -/
theorem usable_of_not_released (hs : (m.string s).released = false) : m.Usable s := by
  have hblock : m.blockOf s = .ok (m.string s).block := by
    rw [blockOf, hs]
    rfl
  have hrelease : m.release (some s)
      = (m.markReleased s).returnBlock (m.string s).allocator (m.string s).block := by
    rw [release, releaseString, hs, if_neg Bool.false_ne_true]
  refine ⟨?_, ?_, ?_, ?_, ?_, ?_⟩
  · rw [perform, hs]
  · rw [perform, hblock]
    rfl
  · rw [perform, stringLength, hblock]
    rfl
  · rw [perform, stringText, hblock]
    rfl
  · rw [perform, hrelease]
  · intro fault hfault
    have hmap : (m.releaseString s).2.map (fun _ => Answer.done) = .error fault := hfault
    have hresult : (m.releaseString s).2 = .error fault := by
      cases hanswer : (m.releaseString s).2 with
      | ok => simp [hanswer, Except.map] at hmap
      | error => simpa [hanswer, Except.map] using hmap
    exact onlyMarks_of_refused hs hresult

/-- A string that is released is spent. -/
theorem spent_of_released (hs : (m.string s).released = true) : m.Spent s := by
  have hblock : m.blockOf s = .error .usedAfterRelease := by
    rw [blockOf, hs]
    rfl
  refine ⟨?_, ?_, ?_, ?_, ?_⟩
  · rw [perform, hs]
  · rw [perform, hblock]
    rfl
  · rw [perform, stringLength, hblock]
    rfl
  · rw [perform, stringText, hblock]
    rfl
  · rw [perform, release, releaseString, hs]
    rfl

/-! ## The result -/

/-- **Strings give their blocks back once** in a run: what is known at its end of the strings, of the
calls that they made, and of what they answer. -/
structure ReleasesOnce (start : Memory) (operations : List Operation) : Prop where
  /-- A string calls an allocator once, as soon as there was an attempt to release it, and then its
  own allocator with its own block. -/
  calls : ∀ s, (start.returns operations).filter (fun r => r.string = some s)
    = if s ∈ start.attempts operations then
        [⟨some s, ((start.run operations).1.string s).allocator,
          ((start.run operations).1.string s).block⟩]
      else []
  /-- Block and allocator are those that it was made with. -/
  kept : ∀ earlier later, operations = earlier ++ later → ∀ s, (start.run earlier).1.Knows s →
    (start.run operations).1.Knows s
      ∧ ((start.run operations).1.string s).block = ((start.run earlier).1.string s).block
      ∧ ((start.run operations).1.string s).allocator = ((start.run earlier).1.string s).allocator
  /-- No call is left out: allocators that count their returns have counted all of these. -/
  counted : ∀ (a : AllocatorId) (supply : Supplier) (requests count : Nat),
    start.allocators[a.index]? = some (.supplied supply requests count) →
      ∃ requests', (start.run operations).1.allocators[a.index]?
        = some (.supplied supply requests'
            (count + (start.returns operations).countP (fun r => r.allocator = a)))
  /-- Before the first attempt a string is usable. -/
  usable : ∀ s, (start.run operations).1.Knows s → s ∉ start.attempts operations →
    (start.run operations).1.Usable s
  /-- From the first attempt on it is spent, whatever is done. -/
  spent : ∀ s, s ∈ start.attempts operations → ∀ later,
    (start.run (operations ++ later)).1.Spent s

/-- **In every run, with allocators of any kind, strings give their blocks back once.** -/
theorem strings_release_once (capacity : Nat) (allocators : List Allocator)
    (operations : List Operation) : ReleasesOnce (ofAllocators capacity allocators) operations where
  calls s := returns_of_string rfl operations s
  kept := by
    rintro earlier later rfl s hs
    rw [run_append]
    exact ⟨hs.run later, string_run hs later⟩
  counted a supply requests count h := supplied_run h operations
  usable s hknows hnot := by
    refine usable_of_not_released ?_
    rw [← Bool.not_eq_true, released_iff_mem_attempts rfl hknows]
    exact hnot
  spent s hs later := by
    have hmem : s ∈ (ofAllocators capacity allocators).attempts (operations ++ later) := by
      rw [attempts, record_append]
      exact List.mem_append_left _ hs
    exact spent_of_released
      ((released_iff_mem_attempts rfl (knows_of_mem_attempts hmem)).mpr hmem)

/-- Two strings around one foreign block, one of them released twice: each hands the block back once
to a heap that does not know it. -/
example : (ofAllocators (2 ^ 32) [.newHeap (.infinity false)]).returns
    [.adopt [0], .wrap ⟨0⟩ ⟨0⟩, .wrap ⟨0⟩ ⟨0⟩, .release (some ⟨1⟩), .release (some ⟨0⟩),
      .release (some ⟨1⟩)]
    = [⟨some ⟨1⟩, ⟨0⟩, ⟨0⟩⟩, ⟨some ⟨0⟩, ⟨0⟩, ⟨0⟩⟩] := by decide

end Memory

end Turnstile
