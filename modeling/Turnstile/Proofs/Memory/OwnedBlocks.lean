import Mathlib.Algebra.BigOperators.Group.List.Basic
import Turnstile.Proofs.Memory.Ownership

/-! # Strings and blocks, one by one

What the invariant of `Ownership` says about a memory at any moment of a run that leaves the blocks
of strings to their strings.

* **`StringsOwnBlocks`** is the account: which string owns which block, how many bytes an allocator
  spends on strings, and what a release answers.
* **`Owned.emptied`** is about releasing every string, and **`strings_own_blocks`** gives the
  account after every run. -/

namespace Turnstile.Memory

variable {limits : List Number} {h : List Movement} {m m' : Memory} {a : AllocatorId}
  {b : BlockId} {s : StringId}

/-! ## The account -/

/-- The bytes that the text of a string takes, with the zero byte at its end. -/
def Creation.size (c : Creation) : Nat := (Utf8.encode c.text).length + 1

/-- The operations that release strings in an order. -/
def releaseEach (order : List StringId) : List Operation := order.map fun s => .release (some s)

/-- **Strings own their blocks**: what a memory with a history knows about its strings. -/
structure StringsOwnBlocks (h : List Movement) (m : Memory) : Prop where
  /-- The strings are those that were made. -/
  made : ∀ s, s.index < m.strings.length ↔ ∃ c ∈ creations h, c.string = s
  /-- A string knows the block that was handed out for it and the allocator that it came from. -/
  string : ∀ c ∈ creations h,
    m.string c.string = ⟨c.block, c.allocator, decide (c.string ∈ releasedStrings h)⟩
  /-- No two strings share a block. -/
  apart : ∀ c ∈ creations h, ∀ c' ∈ creations h, c.block = c'.block → c = c'
  /-- A string is unreleased exactly when its block is live in its own allocator. -/
  live : ∀ c ∈ creations h, c.string ∉ releasedStrings h ↔ c.block ∈ m.live c.allocator
  /-- The live blocks of an allocator are those handed out as they are and those of the unreleased
  strings, each once. -/
  blocks : ∀ a, (m.live a).Perm (rawOutstanding h a ++ (unreleased h a).map (·.block))
  /-- So are the live bytes. -/
  bytes : ∀ a, m.liveBytes a =
    ((rawOutstanding h a).map m.byteLength).sum + ((unreleased h a).map Creation.size).sum
  /-- A release fails for the strings that were released before, and for no other reason. -/
  releases : ∀ s, s.index < m.strings.length →
    (m.release (some s)).2 = if s ∈ releasedStrings h then .error .alreadyReleased else .ok ()
  /-- To release nothing does nothing. -/
  releasesNothing : m.release none = (m, .ok ())
  /-- A text that gets no string leaves everything as it was. -/
  unmade : ∀ text a, (∀ s, (m.createString text a).2 ≠ .ok (some s)) →
    (m.createString text a).1 = m
  /-- Once every string is released, in any order, only blocks handed out as they are are live. -/
  emptied : ∀ order : List StringId, (∀ s, s.index < m.strings.length → s ∈ order) → ∀ a,
    ((m.run (releaseEach order)).1.live a).Perm (rawOutstanding h a)
      ∧ (m.run (releaseEach order)).1.liveBytes a = ((rawOutstanding h a).map m.byteLength).sum

/-! ## Blocks of both kinds -/

/-- What is handed out is handed out as it is or for a string. -/
theorem handedOut_perm (h : List Movement) :
    (handedOut h).Perm (raw h ++ (creations h).map fun c : Creation => (c.allocator, c.block)) := by
  induction h with
  | nil => exact .refl _
  | cons mv rest ih =>
    -- A block for a string goes behind those that are handed out as they are.
    cases mv with
    | allocated a b => exact ih.cons (a, b)
    | created s a b text => exact (ih.cons (a, b)).trans List.perm_middle.symm
    | returned => exact ih
    | released => exact ih

namespace Owned

/-- A block handed out as it is is taken back as it is. -/
theorem mem_takenBack_of_raw (ho : Owned h m) (hm : Accounted limits h m)
    (hraw : (a, b) ∈ raw h) : (a, b) ∈ takenBack h ↔ (a, b) ∈ rawBack h := by
  rw [mem_takenBack, mem_rawBack, or_iff_left]
  rintro ⟨s, hs⟩
  obtain ⟨text, htext⟩ := ho.released s a b hs
  have heq := hm.movement_inj htext (mem_raw.mp hraw) rfl rfl
  simp at heq

/-- A block handed out for a string is taken back when the string is released. -/
theorem mem_takenBack_of_creation (ho : Owned h m) (hm : Accounted limits h m) {c : Creation}
    (hc : c ∈ creations h) :
    (c.allocator, c.block) ∈ takenBack h ↔ c.string ∈ releasedStrings h := by
  have hlive := ho.live_iff hm hc
  rw [hm.mem_live, and_iff_right (mem_handedOut_of_out? (mem_creations.mp hc) rfl)] at hlive
  exact not_iff_not.mp hlive

/-- **What is outstanding** is outstanding as it is or belongs to a string that is not released. -/
theorem outstanding_perm (ho : Owned h m) (hm : Accounted limits h m) (a : AllocatorId) :
    (outstanding h a).Perm (rawOutstanding h a ++ (unreleased h a).map (·.block)) := by
  -- What was taken back is the same on each side as long as the two kinds are looked at apart.
  have hraw : ((raw h).filter fun p => p.1 = a ∧ p ∉ takenBack h)
      = (raw h).filter fun p => p.1 = a ∧ p ∉ rawBack h := by
    refine List.filter_congr ?_
    intro p hp
    simp only [ho.mem_takenBack_of_raw hm hp]
  have hstrings : ((creations h).filter
        ((fun p : AllocatorId × BlockId => decide (p.1 = a ∧ p ∉ takenBack h))
          ∘ fun c : Creation => (c.allocator, c.block)))
      = unreleased h a := by
    refine List.filter_congr ?_
    intro c hc
    simp only [Function.comp_apply, ho.mem_takenBack_of_creation hm hc]
  have hperm := ((handedOut_perm h).filter fun p => p.1 = a ∧ p ∉ takenBack h).map (·.2)
  rw [List.filter_append, hraw, List.filter_map, hstrings, List.map_append, List.map_map] at hperm
  exact hperm

/-- The bytes in live blocks of both kinds. -/
theorem liveBytes_eq (ho : Owned h m) (hm : Accounted limits h m) (a : AllocatorId) :
    m.liveBytes a =
      ((rawOutstanding h a).map m.byteLength).sum + ((unreleased h a).map Creation.size).sum := by
  have hsizes : ((unreleased h a).map (·.block)).map m.byteLength
      = (unreleased h a).map Creation.size := by
    rw [List.map_map]
    refine List.map_congr_left ?_
    intro c hc
    exact ho.lengths c (List.mem_filter.mp hc).1
  rw [hm.liveBytes_eq, outstandingBytes, ((ho.outstanding_perm hm a).map _).sum_eq,
    List.map_append, List.sum_append, hsizes]

/-! ## Releases -/

/-- A string in the table is released or not as the history says. -/
theorem released_iff (ho : Owned h m) (hs : s.index < m.strings.length) :
    (m.string s).released = true ↔ s ∈ releasedStrings h := by
  obtain ⟨c, hc, rfl⟩ := ho.exists_creation hs
  rw [ho.string_eq hc, decide_eq_true_eq]

/-- **The answer to a release.** -/
theorem release_eq (ho : Owned h m) (hm : Accounted limits h m) (hs : s.index < m.strings.length) :
    (m.release (some s)).2 = if s ∈ releasedStrings h then .error .alreadyReleased else .ok () := by
  rw [release, releaseString]
  by_cases hbefore : s ∈ releasedStrings h
  · rw [if_pos hbefore, if_pos ((ho.released_iff hs).mpr hbefore)]
  · have hnot : (m.string s).released = false := by
      rw [← Bool.not_eq_true, ho.released_iff hs]
      exact hbefore
    rw [if_neg hbefore, hnot, if_neg Bool.false_ne_true]
    have hheaps := hm.heaps.congr (markReleased_allocators m s)
    have hlive : (m.string s).block ∈ (m.markReleased s).live (m.string s).allocator := by
      rw [Memory.live, allocator_congr (markReleased_allocators m s)]
      exact ho.live_of_not_released hm hnot
    cases hr : (m.markReleased s).returnBlock (m.string s).allocator (m.string s).block with
    | mk m' result =>
      cases result with
      | error fault => exact absurd hlive (returnBlock_error hheaps hr).2.2
      | ok => rfl

end Owned

/-! ## Releasing everything -/

/-- Releases leave the blocks of strings to their strings. -/
theorem follows_releaseEach (h : List Movement) (m : Memory) (order : List StringId) :
    Follows Keeps h m (releaseEach order) := by
  induction order generalizing h m with
  | nil => trivial
  | cons s rest ih => exact ⟨trivial, ih _ _⟩

/-- Releases keep the contents of all blocks. -/
theorem run_releaseEach_blocks (m : Memory) (order : List StringId) :
    (m.run (releaseEach order)).1.blocks = m.blocks := by
  induction order generalizing m with
  | nil => rfl
  | cons s rest ih =>
    have hfirst : (m.perform (.release (some s))).1.blocks = m.blocks := by
      simp only [perform, release, releaseString]
      split
      · rfl
      · rw [returnBlock_blocks, markReleased_blocks]
    exact (ih _).trans hfirst

/-- Releases move blocks only with their strings. -/
theorem mem_history_releaseEach {mv : Movement} {order : List StringId}
    (hmv : mv ∈ m.history (releaseEach order)) : ∃ s a b, mv = .released s a b := by
  induction order generalizing m with
  | nil => simp [releaseEach, history] at hmv
  | cons s rest ih =>
    rcases List.mem_append.mp hmv with hmv | hmv
    · cases hanswer : (m.release (some s)).2 with
      | error fault => simp [movements_release_of_error hanswer] at hmv
      | ok =>
        rw [movements_release hanswer, List.mem_singleton] at hmv
        exact ⟨_, _, _, hmv⟩
    · exact ih hmv

/-- What releases say nothing about is as it was before them. -/
theorem filterMap_history_releaseEach {β : Type} {f : Movement → Option β}
    (hf : ∀ s a b, f (.released s a b) = none) (h : List Movement) (m : Memory)
    (order : List StringId) : (h ++ m.history (releaseEach order)).filterMap f = h.filterMap f := by
  have hnil : (m.history (releaseEach order)).filterMap f = [] := by
    rw [List.filterMap_eq_nil_iff]
    intro mv hmv
    obtain ⟨s, a, b, rfl⟩ := mem_history_releaseEach hmv
    exact hf s a b
  rw [List.filterMap_append, hnil, List.append_nil]

/-- What was released stays released. -/
theorem releasedStrings_subset (h h' : List Movement) :
    releasedStrings h ⊆ releasedStrings (h ++ h') := by
  rw [releasedStrings, releasedStrings, List.filterMap_append]
  exact List.subset_append_left _ _

namespace Owned

/-- The string of a making is in the table. -/
theorem index_lt (ho : Owned h m) {c : Creation} (hc : c ∈ creations h) :
    c.string.index < m.strings.length := by
  rw [ho.strings, List.length_map]
  exact (List.getElem?_eq_some_iff.mp (ho.getElem?_creations hc)).1

/-- **Each string in the order is released** in the end. -/
theorem mem_releasedStrings_of_order (ho : Owned h m) (hm : Accounted limits h m)
    {order : List StringId} {c : Creation} (hc : c ∈ creations h) (horder : c.string ∈ order) :
    c.string ∈ releasedStrings (h ++ m.history (releaseEach order)) := by
  induction order generalizing h m with
  | nil => simp at horder
  | cons s rest ih =>
    show c.string ∈ releasedStrings
      (h ++ (m.movements (.release (some s)) ++ (m.perform (.release (some s))).1.history
        (releaseEach rest)))
    rw [← List.append_assoc]
    rcases List.mem_cons.mp horder with rfl | hrest
    · -- The release succeeds now or has succeeded before.
      refine releasedStrings_subset _ _ ?_
      have hanswer := ho.release_eq hm (ho.index_lt hc)
      split at hanswer
      · next hbefore => exact releasedStrings_subset _ _ hbefore
      · rw [movements_release hanswer, releasedStrings_concat]
        exact List.mem_append_right _ (List.mem_singleton_self _)
    · have hmade : c ∈ creations (h ++ m.movements (.release (some s))) := by
        rw [creations, List.filterMap_append]
        exact List.mem_append_left _ hc
      exact ih (ho.perform hm trivial) (hm.perform _) hmade hrest

/-- Once all strings are released, none is unreleased. -/
theorem unreleased_eq_nil (ho : Owned h m) (hm : Accounted limits h m) {order : List StringId}
    (horder : ∀ s, s.index < m.strings.length → s ∈ order) (a : AllocatorId) :
    unreleased (h ++ m.history (releaseEach order)) a = [] := by
  rw [unreleased, List.filter_eq_nil_iff, creations,
    filterMap_history_releaseEach (fun _ _ _ => rfl)]
  intro c hc
  have hfreed := ho.mem_releasedStrings_of_order hm hc (horder _ (ho.index_lt hc))
  simp [hfreed]

/-- **Releasing every string leaves an allocator with the blocks handed out as they are.** -/
theorem emptied (ho : Owned h m) (hm : Accounted limits h m) {order : List StringId}
    (horder : ∀ s, s.index < m.strings.length → s ∈ order) (a : AllocatorId) :
    ((m.run (releaseEach order)).1.live a).Perm (rawOutstanding h a)
      ∧ (m.run (releaseEach order)).1.liveBytes a
          = ((rawOutstanding h a).map m.byteLength).sum := by
  obtain ⟨hm', ho'⟩ := owned_run hm ho (follows_releaseEach h m order)
  have hraw : rawOutstanding (h ++ m.history (releaseEach order)) a = rawOutstanding h a := by
    rw [rawOutstanding, rawOutstanding, raw, rawBack,
      filterMap_history_releaseEach (fun _ _ _ => rfl),
      filterMap_history_releaseEach (fun _ _ _ => rfl)]
    rfl
  have hnone := ho.unreleased_eq_nil hm horder a
  have hsizes : (m.run (releaseEach order)).1.byteLength = m.byteLength := by
    funext b
    rw [byteLength, byteLength, contents_congr (run_releaseEach_blocks m order)]
  constructor
  · have hperm := (hm'.live_perm a).trans (ho'.outstanding_perm hm' a)
    rwa [hnone, hraw, List.map_nil, List.append_nil] at hperm
  · rw [ho'.liveBytes_eq hm', hnone, hraw, hsizes, List.map_nil, List.sum_nil, Nat.add_zero]

/-- **What the table and the accounts say together.** -/
theorem stringsOwnBlocks (ho : Owned h m) (hm : Accounted limits h m) : StringsOwnBlocks h m where
  made s := by
    constructor
    · exact ho.exists_creation
    · rintro ⟨c, hc, rfl⟩
      exact ho.index_lt hc
  string c hc := ho.string_eq hc
  apart c hc c' hc' heq := by
    have hmade := mem_creations.mp hc
    rw [heq] at hmade
    have hsame := hm.movement_inj hmade (mem_creations.mp hc') rfl rfl
    rw [Movement.created.injEq] at hsame
    exact ho.creation_inj hc hc' hsame.1
  live c hc := (ho.live_iff hm hc).symm
  blocks a := (hm.live_perm a).trans (ho.outstanding_perm hm a)
  bytes := ho.liveBytes_eq hm
  releases s hs := ho.release_eq hm hs
  releasesNothing := rfl
  unmade text a := createString_fails hm.heaps
  emptied order horder := ho.emptied hm horder

end Owned

/-- **Strings own their blocks after every run** of operations that leave the blocks of strings to
their strings. -/
theorem strings_own_blocks (capacity : Nat) (limits : List Number) (operations : List Operation)
    (hkeeps : Follows Keeps [] (ofLimits capacity limits) operations) :
    StringsOwnBlocks (history (ofLimits capacity limits) operations)
      ((ofLimits capacity limits).run operations).1 := by
  obtain ⟨hm, ho⟩ := owned_run (Accounted.start capacity limits) (Owned.start capacity limits) hkeeps
  rw [List.nil_append] at hm ho
  exact ho.stringsOwnBlocks hm

/-- A run over two heaps, the second with room for three bytes: two strings of which one does not
fit, a block as it is that comes back, a byte of a string changed, and a string released twice. -/
def mixedRun : List Operation :=
  [.create [0x61, 0xE9] ⟨0⟩, .create [0x61, 0xE9] ⟨1⟩, .allocate ⟨1⟩ (.number (.ofNat 2)),
    .create [0x61] ⟨1⟩, .returnBlock ⟨1⟩ ⟨1⟩, .poke ⟨0⟩ 0 0, .create [0x61] ⟨1⟩,
    .release (some ⟨0⟩), .release none, .release (some ⟨0⟩)]

theorem strings_own_blocks_mixedRun :
    StringsOwnBlocks (history (ofLimits (2 ^ 32) [.infinity false, .ofNat 3]) mixedRun)
      ((ofLimits (2 ^ 32) [.infinity false, .ofNat 3]).run mixedRun).1 :=
  strings_own_blocks _ _ _ (by decide +kernel)

end Turnstile.Memory
