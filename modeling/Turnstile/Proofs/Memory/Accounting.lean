import Mathlib.Algebra.BigOperators.Group.List.Basic
import Mathlib.Algebra.GroupWithZero.Nat
import Mathlib.Data.List.Nodup
import Turnstile.Proofs.Memory.Transition

/-! # The accounts of heaps

A heap keeps a set of live blocks and a count of bytes in use, which it changes in different places.
After any run both say what the history of the run says.

* **`Accounted`** is the invariant that ties a memory of heaps to the history of how it came about,
  with **`Balanced`** for each heap; `Accounted.frame`, `Accounted.out` and `Accounted.taken` carry
  it through the three kinds of change, `Accounted.perform` through an operation and `accounted_run`
  through a run.
* **`ActsAsSets`** says what heaps look like from outside, in terms of a history alone, and
  **`heaps_act_as_sets`** that they look like this after every run. -/

namespace Turnstile.Memory

variable {limits : List Number} {h h' : List Movement} {m m' : Memory} {a a' : AllocatorId}
  {b b' : BlockId} {mv : Movement}

/-! ## Totals and limits -/

/-- More bytes exceed what fewer bytes exceed. -/
theorem exceeds_mono {n n' : Nat} (hle : n ≤ n') {limit : Number} (hn : exceeds n limit = true) :
    exceeds n' limit = true := by
  cases limit with
  | nan => exact hn
  | infinity negative => exact hn
  | finite negative quanta representable =>
    rw [exceeds, decide_eq_true_eq] at hn ⊢
    have hmul : n * Number.one ≤ n' * Number.one := Nat.mul_le_mul_right _ hle
    omega

/-! ## The invariant -/

/-- **One heap with a true account of its history.** -/
structure Balanced (limits : List Number) (h : List Movement) (m : Memory) (a : AllocatorId) :
    Prop where
  /-- Live is what was handed out and not taken back. -/
  live : ∀ b, b ∈ m.live a ↔ (a, b) ∈ handedOut h ∧ (a, b) ∉ takenBack h
  /-- No block is listed twice. -/
  nodup : (m.live a).Nodup
  /-- The count of bytes is the sum over the live blocks. -/
  bytes : m.liveBytes a = ((m.live a).map m.byteLength).sum
  /-- As long as a block is live, the limit is kept. -/
  within : ∀ limit, limits[a.index]? = some limit →
    m.live a = [] ∨ exceeds (m.liveBytes a) limit = false

/-- **A memory of heaps with a true account of its history.** -/
structure Accounted (limits : List Number) (h : List Movement) (m : Memory) : Prop where
  /-- The allocators are heaps with the limits. -/
  heaps : HasLimits limits m
  /-- Each has a true account. -/
  balanced : ∀ a, Balanced limits h m a
  /-- Blocks that were handed out are there. -/
  held : ∀ p ∈ handedOut h, m.Holds p.2
  /-- No block is handed out twice. -/
  once : ((handedOut h).map (·.2)).Nodup
  /-- A heap takes back only what it handed out, -/
  back : ∀ p ∈ takenBack h, p.1.index < limits.length → p ∈ handedOut h
  /-- and that once. -/
  backOnce : ∀ a b, a.index < limits.length → (takenBack h).count (a, b) ≤ 1

/-- A heap that nothing happens to keeps its account, whatever happens to the others. -/
theorem Balanced.keep (hbal : Balanced limits h m a) (hlive : m'.live a = m.live a)
    (hused : m'.liveBytes a = m.liveBytes a)
    (hsizes : ∀ b ∈ m.live a, m'.byteLength b = m.byteLength b)
    (hout : ∀ b, (a, b) ∈ handedOut h' ↔ (a, b) ∈ handedOut h)
    (hback : ∀ b, (a, b) ∈ takenBack h' ↔ (a, b) ∈ takenBack h) : Balanced limits h' m' a where
  live b := by
    rw [hlive, hout, hback]
    exact hbal.live b
  nodup := by
    rw [hlive]
    exact hbal.nodup
  bytes := by
    have hmap : (m.live a).map m'.byteLength = (m.live a).map m.byteLength :=
      List.map_congr_left hsizes
    rw [hused, hlive, hmap]
    exact hbal.bytes
  within limit hl := by
    rw [hlive, hused]
    exact hbal.within limit hl

namespace Accounted

/-- Empty heaps have an empty history. -/
theorem start (capacity : Nat) (limits : List Number) :
    Accounted limits [] (ofLimits capacity limits) := by
  have hempty : ∀ a, (ofLimits capacity limits).live a = []
      ∧ (ofLimits capacity limits).liveBytes a = 0 := by
    intro a
    rw [Memory.live, liveBytes, allocator, ofLimits, List.getElem?_map]
    cases limits[a.index]? <;> exact ⟨rfl, rfl⟩
  refine ⟨hasLimits_ofLimits capacity limits, ?_, ?_, List.nodup_nil, ?_, ?_⟩
  · intro a
    obtain ⟨hlive, hused⟩ := hempty a
    exact {
      live := by simp [hlive, handedOut]
      nodup := by rw [hlive]; exact List.nodup_nil
      bytes := by rw [hlive, hused]; rfl
      within := fun _ _ => Or.inl hlive }
  · simp [handedOut]
  · simp [takenBack]
  · simp [takenBack]

theorem mem_live (hm : Accounted limits h m) :
    b ∈ m.live a ↔ (a, b) ∈ handedOut h ∧ (a, b) ∉ takenBack h := (hm.balanced a).live b

/-- A live block is in the memory. -/
theorem holds_of_live (hm : Accounted limits h m) (hb : b ∈ m.live a) : m.Holds b :=
  hm.held (a, b) (hm.mem_live.mp hb).1

/-- What lets all allocators and all sizes be keeps the account. -/
theorem frame (hm : Accounted limits h m) (hall : m'.allocators = m.allocators)
    (hsizes : m.KeepsSizes m') : Accounted limits h m' := by
  refine ⟨hm.heaps.congr hall, ?_, ?_, hm.once, hm.back, hm.backOnce⟩
  · intro a
    refine (hm.balanced a).keep ?_ ?_ ?_ (fun _ => Iff.rfl) (fun _ => Iff.rfl)
    · rw [Memory.live, allocator_congr hall, Memory.live]
    · rw [liveBytes, allocator_congr hall, liveBytes]
    · exact fun b hb => (hsizes b (hm.holds_of_live hb)).2
  · exact fun p hp => (hsizes p.2 (hm.held p hp)).1

/-- The block that would be handed out next was never handed out. -/
theorem fresh (hm : Accounted limits h m) (a : AllocatorId) :
    (a, (⟨m.blocks.length⟩ : BlockId)) ∉ handedOut h :=
  fun hp => Nat.lt_irrefl _ (hm.held _ hp)

/-- A block handed out goes into the account of its heap. -/
theorem balanced_out {limit : Number} {n : Nat} (hm : Accounted limits h m)
    (hl : limits[a.index]? = some limit) (hroom : exceeds (m.liveBytes a + n) limit = false)
    (hmv : mv.out? = some (a, ⟨m.blocks.length⟩)) :
    Balanced limits (h ++ [mv]) (m.provided a limit n) a := by
  have hlive := hm.heaps.live_provided hl n a
  have hused := hm.heaps.liveBytes_provided hl n a
  rw [if_pos rfl] at hlive hused
  have hback : (a, (⟨m.blocks.length⟩ : BlockId)) ∉ takenBack h := fun hb =>
    hm.fresh a (hm.back _ hb (List.getElem?_eq_some_iff.mp hl).1)
  refine ⟨?_, ?_, ?_, ?_⟩
  · intro b
    rw [hlive, handedOut_out hmv, takenBack_out hmv, List.mem_append, List.mem_singleton,
      Prod.mk.injEq, List.mem_cons, hm.mem_live]
    constructor
    · rintro (rfl | hb)
      · exact ⟨Or.inr ⟨rfl, rfl⟩, hback⟩
      · exact ⟨Or.inl hb.1, hb.2⟩
    · rintro ⟨hb | hb, hnot⟩
      · exact Or.inr ⟨hb, hnot⟩
      · exact Or.inl hb.2
  · rw [hlive]
    exact List.nodup_cons.mpr
      ⟨fun hb => hm.fresh a (hm.mem_live.mp hb).1, (hm.balanced a).nodup⟩
  · have hmap : (m.live a).map (m.provided a limit n).byteLength = (m.live a).map m.byteLength :=
      List.map_congr_left fun b hb => (KeepsSizes.provided m a limit n b (hm.holds_of_live hb)).2
    rw [hlive, hused, List.map_cons, List.sum_cons, hmap, byteLength_new, (hm.balanced a).bytes,
      Nat.add_comm]
  · intro limit' hl'
    rw [hl, Option.some.injEq] at hl'
    subst hl'
    rw [hused]
    exact Or.inr hroom

/-- **A block handed out** goes into the account. -/
theorem out {n : Nat} (hm : Accounted limits h m) (hp : m.provide a n = (m', some b))
    (hmv : mv.out? = some (a, b)) : Accounted limits (h ++ [mv]) m' := by
  obtain ⟨limit, hl, hroom, -, rfl, rfl⟩ := provide_some hm.heaps hp
  have hsizes := KeepsSizes.provided m a limit n
  refine ⟨hm.heaps.provided hl n, ?_, ?_, ?_, ?_, ?_⟩
  · intro a'
    by_cases ha : a' = a
    · subst ha
      exact hm.balanced_out hl hroom hmv
    · refine (hm.balanced a').keep ?_ ?_ ?_ ?_ ?_
      · rw [hm.heaps.live_provided hl, if_neg ha]
      · rw [hm.heaps.liveBytes_provided hl, if_neg ha]
      · exact fun b hb => (hsizes b (hm.holds_of_live hb)).2
      · simp [handedOut_out hmv, ha]
      · simp [takenBack_out hmv]
  · rw [handedOut_out hmv]
    intro p hp
    rcases List.mem_append.mp hp with hp | hp
    · exact (hsizes p.2 (hm.held p hp)).1
    · rw [List.mem_singleton.mp hp]
      exact holds_provided m a limit n
  · rw [handedOut_out hmv, List.map_append]
    refine List.nodup_append.mpr ⟨hm.once, List.nodup_singleton _, ?_⟩
    intro b' hb' b'' hb'' heq
    obtain ⟨p, hp, rfl⟩ := List.mem_map.mp hb'
    rw [List.map_singleton, List.mem_singleton] at hb''
    have hindex : p.2 = ⟨m.blocks.length⟩ := heq.trans hb''
    exact hm.fresh p.1 (by rw [← hindex]; exact hp)
  · rw [handedOut_out hmv, takenBack_out hmv]
    exact fun p hp hlt => List.mem_append_left _ (hm.back p hp hlt)
  · rw [takenBack_out hmv]
    exact hm.backOnce

/-- A live block that is taken back was not taken back before. -/
theorem not_takenBack (hm : Accounted limits h m) (hb : b ∈ m.live a) : (a, b) ∉ takenBack h :=
  (hm.mem_live.mp hb).2

/-- A live block taken back goes out of the account of its heap. -/
theorem balanced_back {limit : Number} (hm : Accounted limits h m)
    (hl : limits[a.index]? = some limit) (hb : b ∈ m.live a) (hmv : mv.back? = some (a, b)) :
    Balanced limits (h ++ [mv]) (m.setAllocator a
      (.heap limit ((m.live a).erase b) (m.liveBytes a - m.byteLength b))) a := by
  have hlt : a.index < m.allocators.length :=
    (List.getElem?_eq_some_iff.mp (hm.heaps.heap hl)).1
  refine ⟨?_, ?_, ?_, ?_⟩
  · intro b'
    rw [live_setAllocator hlt, if_pos rfl, (hm.balanced a).nodup.mem_erase_iff, hm.mem_live,
      handedOut_back hmv, takenBack_back hmv, List.mem_append, List.mem_singleton, Prod.mk.injEq]
    tauto
  · rw [live_setAllocator hlt, if_pos rfl]
    exact (hm.balanced a).nodup.erase b
  · have hsum := List.sum_map_erase m.byteLength hb
    rw [← (hm.balanced a).bytes] at hsum
    rw [live_setAllocator hlt, liveBytes_setAllocator hlt, if_pos rfl, if_pos rfl, ← hsum,
      Nat.add_sub_cancel_left]
    rfl
  · intro limit' hl'
    rw [hl, Option.some.injEq] at hl'
    subst hl'
    rw [live_setAllocator hlt, liveBytes_setAllocator hlt, if_pos rfl, if_pos rfl]
    rcases (hm.balanced a).within limit hl with hnil | hroom
    · rw [hnil]
      exact Or.inl rfl
    · refine Or.inr ?_
      rw [← Bool.not_eq_true] at hroom ⊢
      exact fun hless => hroom (exceeds_mono (Nat.sub_le _ _) hless)

/-- A live block taken back goes out of the account. -/
theorem back_live {limit : Number} (hm : Accounted limits h m) (hl : limits[a.index]? = some limit)
    (hb : b ∈ m.live a) (hmv : mv.back? = some (a, b)) :
    Accounted limits (h ++ [mv]) (m.setAllocator a
      (.heap limit ((m.live a).erase b) (m.liveBytes a - m.byteLength b))) := by
  have hat := hm.heaps.heap hl
  have hlt : a.index < m.allocators.length := (List.getElem?_eq_some_iff.mp hat).1
  refine ⟨hm.heaps.setAllocator hat, ?_, ?_, ?_, ?_, ?_⟩
  · intro a'
    by_cases ha : a' = a
    · subst ha
      exact hm.balanced_back hl hb hmv
    · refine (hm.balanced a').keep ?_ ?_ (fun _ _ => rfl) ?_ ?_
      · rw [live_setAllocator hlt, if_neg ha]
      · rw [liveBytes_setAllocator hlt, if_neg ha]
      · simp [handedOut_back hmv]
      · simp [takenBack_back hmv, ha]
  · rw [handedOut_back hmv]
    exact hm.held
  · rw [handedOut_back hmv]
    exact hm.once
  · rw [handedOut_back hmv, takenBack_back hmv]
    intro p hp hlt
    rcases List.mem_append.mp hp with hp | hp
    · exact hm.back p hp hlt
    · rw [List.mem_singleton.mp hp]
      exact (hm.mem_live.mp hb).1
  · intro a' b' hlt
    rw [takenBack_back hmv, List.count_append, List.count_singleton]
    split
    · next heq =>
      obtain ⟨rfl, rfl⟩ := Prod.mk.inj (beq_iff_eq.mp heq)
      have hzero := List.count_eq_zero.mpr (hm.not_takenBack hb)
      omega
    · exact hm.backOnce a' b' hlt

/-- What is given back where there is no allocator is in no account. -/
theorem back_dangling (hm : Accounted limits h m) (hl : limits[a.index]? = none)
    (hmv : mv.back? = some (a, b)) : Accounted limits (h ++ [mv]) m := by
  have hge : limits.length ≤ a.index := List.getElem?_eq_none_iff.mp hl
  have hnone : m.allocators[a.index]? = none := by
    rcases hm.heaps.cases a with ⟨limit, -, -, hl', -⟩ | ⟨-, hat⟩
    · simp [hl] at hl'
    · exact hat
  have hlive : b ∉ m.live a := by
    rw [live_of_getElem?_none hnone]
    exact List.not_mem_nil
  refine ⟨hm.heaps, ?_, ?_, ?_, ?_, ?_⟩
  · intro a'
    refine ⟨?_, (hm.balanced a').nodup, (hm.balanced a').bytes, (hm.balanced a').within⟩
    intro b'
    rw [handedOut_back hmv, takenBack_back hmv, List.mem_append, List.mem_singleton,
      Prod.mk.injEq, hm.mem_live]
    rw [hm.mem_live] at hlive
    constructor
    · rintro ⟨hout, hback⟩
      refine ⟨hout, ?_⟩
      rintro (hb | ⟨rfl, rfl⟩)
      · exact hback hb
      · exact hlive ⟨hout, hback⟩
    · exact fun hb => ⟨hb.1, fun hback => hb.2 (Or.inl hback)⟩
  · rw [handedOut_back hmv]
    exact hm.held
  · rw [handedOut_back hmv]
    exact hm.once
  · rw [handedOut_back hmv, takenBack_back hmv]
    intro p hp hlt
    rcases List.mem_append.mp hp with hp | hp
    · exact hm.back p hp hlt
    · rw [List.mem_singleton.mp hp] at hlt
      exact absurd hlt (Nat.not_lt.mpr hge)
  · intro a' b' hlt
    have hne : ¬ ((a, b) == (a', b')) = true := by
      rw [beq_iff_eq, Prod.mk.injEq]
      rintro ⟨rfl, -⟩
      exact absurd hlt (Nat.not_lt.mpr hge)
    rw [takenBack_back hmv, List.count_append, List.count_singleton, if_neg hne]
    exact hm.backOnce a' b' hlt

/-- **A block taken back** goes out of the account. -/
theorem taken (hm : Accounted limits h m) (hr : m.returnBlock a b = (m', .ok ()))
    (hmv : mv.back? = some (a, b)) : Accounted limits (h ++ [mv]) m' := by
  rcases returnBlock_ok hm.heaps hr with ⟨limit, hl, hb, rfl⟩ | ⟨hl, rfl⟩
  · exact hm.back_live hl hb hmv
  · exact hm.back_dangling hl hmv

/-- **Every operation keeps the account.** -/
theorem perform (hm : Accounted limits h m) (operation : Operation) :
    Accounted limits (h ++ m.movements operation) (m.perform operation).1 := by
  -- One case for each way in which an operation changes a memory: nothing moves in the first group,
  -- a block goes out in the second, one comes back in the third.
  have hstep := perform_transition hm.heaps operation
  generalize m.movements operation = moved, (m.perform operation).1 = m' at hstep ⊢
  cases hstep with
  | idle => simpa using hm
  | adopt bytes => simpa using hm.frame (addBlock_allocators m bytes) (.addBlock m bytes)
  | wrap b a => simpa using hm.frame (wrap_allocators m b a) (.of_blocks_eq rfl)
  | poke b index value =>
    simpa using hm.frame (poke_allocators m b index value) (.poke m b index value)
  | refuse => simpa using hm.frame (markReleased_allocators m _) (.of_blocks_eq rfl)
  | allocate provided => exact hm.out provided rfl
  | create provided =>
    have hlen := byteLength_provided hm.heaps provided
    exact (hm.out provided rfl).frame (written_allocators ..) (.written (by omega))
  | returnBlock returned => exact hm.taken returned rfl
  | release unreleased returned =>
    exact (hm.frame (markReleased_allocators m _) (.of_blocks_eq rfl)).taken returned rfl

end Accounted

/-- **After every run** the account is true. -/
theorem accounted_run (capacity : Nat) (limits : List Number) (operations : List Operation) :
    Accounted limits (history (ofLimits capacity limits) operations)
      ((ofLimits capacity limits).run operations).1 := by
  have hrun := run_induction (P := Accounted limits)
    (fun _ _ operation hm _ => hm.perform operation)
    (follows_of_forall (fun _ _ => trivial) [] (ofLimits capacity limits) operations)
    (Accounted.start capacity limits)
  rwa [List.nil_append] at hrun

/-! ## Heaps from outside -/

/-- The bytes in the blocks outstanding from an allocator. -/
def outstandingBytes (h : List Movement) (m : Memory) (a : AllocatorId) : Nat :=
  ((outstanding h a).map m.byteLength).sum

/-- **Heaps act as sets of live blocks**: what they answer, and what they count, in a memory with a
history, is settled by the blocks that the history says are outstanding. -/
structure ActsAsSets (capacity : Nat) (limits : List Number) (h : List Movement) (m : Memory) :
    Prop where
  /-- The live blocks are counted. -/
  blocks : ∀ a, m.liveBlocks a = (outstanding h a).length
  /-- Their bytes are added up. -/
  bytes : ∀ a, m.liveBytes a = outstandingBytes h m a
  /-- No block is live in two allocators. -/
  apart : ∀ a a' b, b ∈ outstanding h a → b ∈ outstanding h a' → a = a'
  /-- Whatever was handed out is in the memory from then on, -/
  seen : ∀ p ∈ handedOut h, m.Holds p.2
  /-- and a block that is handed out now is not in the memory yet, and all zero. -/
  fresh : ∀ a size b, (m.allocate a size).2 = .ok (some b) →
    ¬ m.Holds b ∧ ∃ n, size? size = some n ∧ (m.allocate a size).1.contents b = List.replicate n 0
  /-- The block of a new string is not in the memory yet either. -/
  freshString : ∀ text a s, (m.createString text a).2 = .ok (some s) →
    ¬ m.Holds ((m.createString text a).1.string s).block
  /-- A size that is no natural number is refused, and nothing changes. -/
  invalid : ∀ a limit size, limits[a.index]? = some limit → size? size = none →
    m.allocate a size = (m, .error (.invalidSize size))
  /-- A size for which there could be room is turned down exactly when it would exceed the limit. -/
  turnedDown : ∀ a limit size n, limits[a.index]? = some limit → size? size = some n →
    n < capacity →
      ((m.allocate a size).2 = .ok none ↔ exceeds (outstandingBytes h m a + n) limit = true)
  /-- A block is taken back exactly when it is live in this very heap, -/
  takes : ∀ a limit b, limits[a.index]? = some limit →
    ((m.returnBlock a b).2 = .ok () ↔ b ∈ outstanding h a)
  /-- also when an unreleased string gives it back; -/
  takesOfString : ∀ s limit, (m.string s).released = false →
    limits[(m.string s).allocator.index]? = some limit →
      ((m.release (some s)).2 = .ok ()
        ↔ (m.string s).block ∈ outstanding h (m.string s).allocator)
  /-- any other one is refused, and nothing changes; -/
  refuses : ∀ a limit b, limits[a.index]? = some limit → b ∉ outstanding h a →
    m.returnBlock a b = (m, .error .notLive)
  /-- so none is taken back twice. -/
  takenOnce : ∀ a limit b, limits[a.index]? = some limit → (takenBack h).count (a, b) ≤ 1
  /-- The live bytes keep to the limit: where they exceed it, no block is live at all. -/
  within : ∀ a limit, limits[a.index]? = some limit →
    outstanding h a = [] ∨ exceeds (outstandingBytes h m a) limit = false

namespace Accounted

/-- No block is outstanding twice. -/
theorem nodup_outstanding (hm : Accounted limits h m) (a : AllocatorId) :
    (outstanding h a).Nodup :=
  hm.once.sublist ((List.filter_sublist ..).map _)

/-- The live blocks are those outstanding, in some order. -/
theorem live_perm (hm : Accounted limits h m) (a : AllocatorId) :
    (m.live a).Perm (outstanding h a) :=
  (List.perm_ext_iff_of_nodup (hm.balanced a).nodup (hm.nodup_outstanding a)).mpr fun b => by
    rw [hm.mem_live, mem_outstanding]

theorem liveBytes_eq (hm : Accounted limits h m) (a : AllocatorId) :
    m.liveBytes a = outstandingBytes h m a := by
  rw [(hm.balanced a).bytes, outstandingBytes]
  exact ((hm.live_perm a).map _).sum_eq

/-- Two allocators do not hand out one block. -/
theorem handedOut_inj (hm : Accounted limits h m) (hb : (a, b) ∈ handedOut h)
    (hb' : (a', b) ∈ handedOut h) : a = a' :=
  congrArg Prod.fst (List.inj_on_of_nodup_map hm.once hb hb' rfl)

/-- A block provided by a heap was not in the memory. -/
theorem not_holds_of_provide {n : Nat} (hm : Accounted limits h m)
    (hp : m.provide a n = (m', some b)) : ¬ m.Holds b := by
  obtain ⟨limit, -, -, -, rfl, -⟩ := provide_some hm.heaps hp
  exact Nat.lt_irrefl _

/-- A request that is answered by a block. -/
theorem provide_of_allocate {size : Value} (hm : Accounted limits h m)
    (hb : (m.allocate a size).2 = .ok (some b)) :
    ∃ n, size? size = some n ∧ m.provide a n = ((m.allocate a size).1, some b) := by
  rcases hm.heaps.cases a with ⟨limit, -, -, hl, -⟩ | ⟨-, hat⟩
  · rw [allocate_heap hm.heaps hl] at hb ⊢
    cases hsize : size? size with
    | none => simp [hsize] at hb
    | some n =>
      simp only [hsize, Except.ok.injEq] at hb
      exact ⟨n, rfl, Prod.ext rfl hb⟩
  · simp [allocate_dangling hat] at hb

/-- A heap's block is zeroed. -/
theorem contents_of_provide {n : Nat} (hm : Accounted limits h m)
    (hp : m.provide a n = (m', some b)) : m'.contents b = List.replicate n 0 := by
  obtain ⟨limit, -, -, -, rfl, rfl⟩ := provide_some hm.heaps hp
  rw [provided, contents_congr (setAllocator_blocks ..), contents_addBlock_self]

/-- The answer to a request for a size that there could be room for. -/
theorem allocate_eq_none_iff {limit : Number} {size : Value} {n : Nat} (hm : Accounted limits h m)
    (hl : limits[a.index]? = some limit) (hsize : size? size = some n) (hn : n < m.capacity) :
    (m.allocate a size).2 = .ok none ↔ exceeds (m.liveBytes a + n) limit = true := by
  have hroom : decide (m.capacity ≤ n) = false := decide_eq_false (Nat.not_le.mpr hn)
  simp only [allocate_heap hm.heaps hl, hsize, provide_heap hm.heaps hl, hroom, Bool.or_false]
  split
  · next hfull => exact ⟨fun _ => hfull, fun _ => rfl⟩
  · next hfull => exact ⟨fun hnone => by simp at hnone, fun hyes => absurd hyes hfull⟩

/-- A block is taken back exactly when it is outstanding. -/
theorem returnBlock_ok_iff {limit : Number} (hm : Accounted limits h m)
    (hl : limits[a.index]? = some limit) (b : BlockId) :
    (m.returnBlock a b).2 = .ok () ↔ b ∈ outstanding h a := by
  rw [returnBlock_eq_ok_iff hm.heaps hl, (hm.live_perm a).mem_iff]

/-- **A true account of its history makes heaps act as sets.** -/
theorem actsAsSets (hm : Accounted limits h m) : ActsAsSets m.capacity limits h m where
  blocks a := (hm.live_perm a).length_eq
  bytes := hm.liveBytes_eq
  apart a a' b hb hb' := hm.handedOut_inj (mem_outstanding.mp hb).1 (mem_outstanding.mp hb').1
  seen := hm.held
  fresh a size b hb := by
    obtain ⟨n, hsize, hp⟩ := hm.provide_of_allocate hb
    exact ⟨hm.not_holds_of_provide hp, n, hsize, hm.contents_of_provide hp⟩
  freshString text a s hs := by
    have hc : m.createString text a = ((m.createString text a).1, .ok (some s)) := Prod.ext rfl hs
    obtain ⟨m₁, b, -, hp, -, rfl, hafter⟩ := createString_some hc
    obtain ⟨limit, -, -, -, -, rfl⟩ := provide_some hm.heaps hp
    rw [hafter, provided_strings, ← provided_strings m a limit, string_written]
    exact hm.not_holds_of_provide hp
  invalid a limit size hl hsize := by rw [allocate_heap hm.heaps hl, hsize]
  turnedDown a limit size n hl hsize hn := by
    rw [← hm.liveBytes_eq]
    exact hm.allocate_eq_none_iff hl hsize hn
  takes a limit b hl := hm.returnBlock_ok_iff hl b
  takesOfString s limit hs hl := by
    rw [release, releaseString, hs, if_neg Bool.false_ne_true]
    have hmarked := hm.frame (markReleased_allocators m s) (.of_blocks_eq rfl)
    exact hmarked.returnBlock_ok_iff hl (m.string s).block
  refuses a limit b hl hb := by
    rw [returnBlock_heap hm.heaps hl, if_neg]
    rw [List.contains_iff_mem, (hm.live_perm a).mem_iff]
    exact hb
  takenOnce a limit b hl := hm.backOnce a b (List.getElem?_eq_some_iff.mp hl).1
  within a limit hl := by
    rw [← hm.liveBytes_eq]
    refine ((hm.balanced a).within limit hl).imp_left fun hnil => ?_
    exact List.nil_perm.mp (hnil ▸ hm.live_perm a)

end Accounted

/-- A run takes no block away. -/
theorem Accounted.run_keepsSizes (hm : Accounted limits h m) (operations : List Operation) :
    m.KeepsSizes (m.run operations).1 := by
  induction operations generalizing h m with
  | nil => exact .refl m
  | cons operation rest ih =>
    rw [run_cons]
    exact (perform_keepsSizes hm.heaps operation).trans (ih (hm.perform operation))

/-- **After every run, heaps act as sets of live blocks**, whatever was done in whatever order and
however much of it failed; and every block that was there at an earlier moment of the run is still
there and as long as it was. -/
theorem heaps_act_as_sets (capacity : Nat) (limits : List Number) (operations : List Operation) :
    ActsAsSets capacity limits (history (ofLimits capacity limits) operations)
        ((ofLimits capacity limits).run operations).1
      ∧ ∀ earlier, earlier <+: operations →
        ((ofLimits capacity limits).run earlier).1.KeepsSizes
          ((ofLimits capacity limits).run operations).1 := by
  have hacts := (accounted_run capacity limits operations).actsAsSets
  rw [capacity_run] at hacts
  refine ⟨hacts, ?_⟩
  rintro earlier ⟨rest, rfl⟩
  rw [run_append]
  exact (accounted_run capacity limits earlier).run_keepsSizes rest

end Turnstile.Memory
