import Mathlib.Data.List.Pairwise
import Turnstile.Proofs.Memory.Accounting

/-! # Strings own their blocks

As long as the blocks of strings come back only through their strings, the strings that have not
been released and the blocks that were handed out for strings and are live are the same in number
and belong together one by one.

* **`Keeps`** says which operations leave the blocks of strings to their strings.
* **`Owned`** is the invariant: the table of strings is what the history says.
* **`StringsOwnBlocks`** says what strings and blocks have to do with each other, and
  **`strings_own_blocks`** that this holds after every run of such operations. -/

namespace Turnstile.Memory

variable {limits : List Number} {h : List Movement} {m m' : Memory} {a a' : AllocatorId}
  {b b' : BlockId} {s : StringId} {mv : Movement}

/-! ## Strings and blocks in a history -/

/-- The making of a string. -/
structure Creation where
  string : StringId
  allocator : AllocatorId
  block : BlockId
  text : Text
  deriving DecidableEq

namespace Movement

/-- The making of a string, if that is what it is. -/
def creation? : Movement → Option Creation
  | .created s a b text => some ⟨s, a, b, text⟩
  | _ => none

/-- The string that was released, if one was. -/
def releasedString? : Movement → Option StringId
  | .released s _ _ => some s
  | _ => none

/-- The allocator and the block, where a block was handed out as it is. -/
def raw? : Movement → Option (AllocatorId × BlockId)
  | .allocated a b => some (a, b)
  | _ => none

/-- The allocator and the block, where a block was taken back as it is. -/
def rawBack? : Movement → Option (AllocatorId × BlockId)
  | .returned a b => some (a, b)
  | _ => none

end Movement

/-- The strings that were made. -/
def creations (h : List Movement) : List Creation := h.filterMap Movement.creation?

/-- The strings that were released. -/
def releasedStrings (h : List Movement) : List StringId := h.filterMap Movement.releasedString?

/-- The blocks that were handed out as they are. -/
def raw (h : List Movement) : List (AllocatorId × BlockId) := h.filterMap Movement.raw?

/-- The blocks that were taken back as they are. -/
def rawBack (h : List Movement) : List (AllocatorId × BlockId) := h.filterMap Movement.rawBack?

/-- The blocks outstanding from an allocator that were handed out as they are. -/
def rawOutstanding (h : List Movement) (a : AllocatorId) : List BlockId :=
  remaining (raw h) (rawBack h) a

/-- The strings of an allocator that were made and not released. -/
def unreleased (h : List Movement) (a : AllocatorId) : List Creation :=
  (creations h).filter fun c => c.allocator = a ∧ c.string ∉ releasedStrings h

/-- **The operations that leave the blocks of strings to their strings**: only a block that was
handed out as it is may be given back as it is, and no string is put around a block that is there.
-/
def Keeps (h : List Movement) : Operation → Prop
  | .returnBlock _ b => b ∈ (raw h).map (·.2)
  | .wrap .. => False
  | _ => True

instance (h : List Movement) : (operation : Operation) → Decidable (Keeps h operation)
  | .returnBlock _ b => inferInstanceAs (Decidable (b ∈ (raw h).map (·.2)))
  | .wrap .. => .isFalse id
  | .allocate .. | .adopt .. | .create .. | .release .. | .poke .. | .isReleased .. | .readText ..
  | .readLength .. | .readBlock .. => .isTrue trivial

namespace Movement

variable {mv : Movement}

theorem creation?_eq_some {c : Creation} :
    mv.creation? = some c ↔ mv = .created c.string c.allocator c.block c.text := by
  cases c
  cases mv <;> simp [creation?]

theorem releasedString?_eq_some :
    mv.releasedString? = some s ↔ ∃ a b, mv = .released s a b := by
  cases mv <;> simp [releasedString?]

theorem raw?_eq_some : mv.raw? = some (a, b) ↔ mv = .allocated a b := by
  cases mv <;> simp [raw?]

theorem rawBack?_eq_some : mv.rawBack? = some (a, b) ↔ mv = .returned a b := by
  cases mv <;> simp [rawBack?]

/-- A block is taken back as it is or with its string. -/
theorem back?_eq_some :
    mv.back? = some (a, b) ↔ mv = .returned a b ∨ ∃ s, mv = .released s a b := by
  cases mv <;> simp [back?]

end Movement

theorem mem_creations {c : Creation} :
    c ∈ creations h ↔ .created c.string c.allocator c.block c.text ∈ h := by
  simp only [creations, List.mem_filterMap, Movement.creation?_eq_some, exists_eq_right]

theorem mem_releasedStrings : s ∈ releasedStrings h ↔ ∃ a b, .released s a b ∈ h := by
  simp only [releasedStrings, List.mem_filterMap, Movement.releasedString?_eq_some]
  constructor
  · rintro ⟨mv, hmv, a, b, rfl⟩
    exact ⟨a, b, hmv⟩
  · rintro ⟨a, b, hmv⟩
    exact ⟨_, hmv, a, b, rfl⟩

theorem mem_raw : (a, b) ∈ raw h ↔ .allocated a b ∈ h := by
  simp only [raw, List.mem_filterMap, Movement.raw?_eq_some, exists_eq_right]

theorem mem_rawBack : (a, b) ∈ rawBack h ↔ .returned a b ∈ h := by
  simp only [rawBack, List.mem_filterMap, Movement.rawBack?_eq_some, exists_eq_right]

theorem mem_takenBack :
    (a, b) ∈ takenBack h ↔ .returned a b ∈ h ∨ ∃ s, .released s a b ∈ h := by
  simp only [takenBack, List.mem_filterMap, Movement.back?_eq_some]
  constructor
  · rintro ⟨mv, hmv, rfl | ⟨s, rfl⟩⟩
    · exact Or.inl hmv
    · exact Or.inr ⟨s, hmv⟩
  · rintro (hmv | ⟨s, hmv⟩)
    · exact ⟨_, hmv, Or.inl rfl⟩
    · exact ⟨_, hmv, Or.inr ⟨s, rfl⟩⟩

theorem mem_handedOut_of_out? {mv : Movement} {p : AllocatorId × BlockId} (hmv : mv ∈ h)
    (hp : mv.out? = some p) : p ∈ handedOut h :=
  List.mem_filterMap.mpr ⟨mv, hmv, hp⟩

/-- One block is handed out by one movement. -/
theorem Accounted.movement_inj (hm : Accounted limits h m) {mv mv' : Movement} (hmv : mv ∈ h)
    (hmv' : mv' ∈ h) (hb : mv.out? = some (a, b)) (hb' : mv'.out? = some (a', b)) : mv = mv' := by
  have hpairs := hm.once
  rw [handedOut, List.Nodup, List.pairwise_map, List.pairwise_filterMap] at hpairs
  have hsymm : Std.Symm fun mv mv' : Movement =>
      ∀ p, mv.out? = some p → ∀ p', mv'.out? = some p' → p.2 ≠ p'.2 :=
    ⟨fun _ _ hr p hp p' hp' heq => hr p' hp' p hp heq.symm⟩
  by_contra hne
  exact hpairs.forall hmv hmv' hne (a, b) hb (a', b) hb' rfl

/-- The block of a string is in the memory. -/
theorem Accounted.holds_creation {c : Creation} (hm : Accounted limits h m)
    (hc : c ∈ creations h) : m.Holds c.block :=
  hm.held (c.allocator, c.block) (mem_handedOut_of_out? (mem_creations.mp hc) rfl)

/-! ## The invariant -/

/-- **The table of strings is what the history says**: made in the order of the history, around the
blocks that were handed out for them, and released where the history says so. -/
structure Owned (h : List Movement) (m : Memory) : Prop where
  /-- The strings are those that were made. -/
  strings : m.strings = (creations h).map fun c : Creation =>
    (⟨c.block, c.allocator, decide (c.string ∈ releasedStrings h)⟩ : OwnedString)
  /-- A string is referred to by its place. -/
  place : ∀ (i : Nat) (c : Creation), (creations h)[i]? = some c → c.string = ⟨i⟩
  /-- A block holds the bytes of its string and one more. -/
  lengths : ∀ c ∈ creations h, m.byteLength c.block = (Utf8.encode c.text).length + 1
  /-- A block that comes back with a string was handed out for it. -/
  released : ∀ s a b, .released s a b ∈ h → ∃ text, .created s a b text ∈ h
  /-- A block that comes back as it is was handed out as it is. -/
  returned : ∀ a b, .returned a b ∈ h → ∃ a', .allocated a' b ∈ h

/-- The accounts of a history with one movement more. -/
theorem creations_concat (h : List Movement) (mv : Movement) :
    creations (h ++ [mv]) = creations h ++ mv.creation?.toList := by
  rw [creations, List.filterMap_append]
  cases mv <;> rfl

theorem releasedStrings_concat (h : List Movement) (mv : Movement) :
    releasedStrings (h ++ [mv]) = releasedStrings h ++ mv.releasedString?.toList := by
  rw [releasedStrings, List.filterMap_append]
  cases mv <;> rfl

namespace Owned

theorem start (capacity : Nat) (limits : List Number) : Owned [] (ofLimits capacity limits) where
  strings := rfl
  place := by simp [creations]
  lengths := by simp [creations]
  released := by simp
  returned := by simp

/-- A creation is at the place of its string. -/
theorem getElem?_creations (ho : Owned h m) {c : Creation} (hc : c ∈ creations h) :
    (creations h)[c.string.index]? = some c := by
  obtain ⟨i, hi⟩ := List.mem_iff_getElem?.mp hc
  rw [ho.place i c hi]
  exact hi

/-- The string that was made, and whether it was released. -/
theorem string_eq (ho : Owned h m) {c : Creation} (hc : c ∈ creations h) :
    m.string c.string = ⟨c.block, c.allocator, decide (c.string ∈ releasedStrings h)⟩ := by
  apply string_of_getElem?
  rw [ho.strings, List.getElem?_map, ho.getElem?_creations hc, Option.map_some]

/-- Every string was made. -/
theorem exists_creation (ho : Owned h m) (hs : s.index < m.strings.length) :
    ∃ c ∈ creations h, c.string = s := by
  rw [ho.strings, List.length_map] at hs
  exact ⟨(creations h)[s.index], List.getElem_mem hs,
    ho.place s.index _ (List.getElem?_eq_getElem hs)⟩

/-- What lets all strings and all sizes be keeps the table. -/
theorem frame (ho : Owned h m) (hm : Accounted limits h m) (hstrings : m'.strings = m.strings)
    (hsizes : m.KeepsSizes m') : Owned h m' where
  strings := by rw [hstrings, ho.strings]
  place := ho.place
  lengths c hc := by
    rw [(hsizes c.block (hm.holds_creation hc)).2, ho.lengths c hc]
  released := ho.released
  returned := ho.returned

/-- The blocks that come back with strings, after one more movement. -/
theorem released_concat (ho : Owned h m)
    (hmv : ∀ s a b, mv = .released s a b → ∃ text, .created s a b text ∈ h) (s : StringId)
    (a : AllocatorId) (b : BlockId) (hs : .released s a b ∈ h ++ [mv]) :
    ∃ text, .created s a b text ∈ h ++ [mv] := by
  have hmade : ∃ text, .created s a b text ∈ h := by
    rcases List.mem_append.mp hs with hs | hs
    · exact ho.released s a b hs
    · exact hmv s a b (List.mem_singleton.mp hs).symm
  obtain ⟨text, htext⟩ := hmade
  exact ⟨text, List.mem_append_left _ htext⟩

/-- The blocks that come back as they are, after one more movement. -/
theorem returned_concat (ho : Owned h m)
    (hmv : ∀ a b, mv = .returned a b → ∃ a', .allocated a' b ∈ h) (a : AllocatorId) (b : BlockId)
    (hb : .returned a b ∈ h ++ [mv]) : ∃ a', .allocated a' b ∈ h ++ [mv] := by
  have hraw : ∃ a', .allocated a' b ∈ h := by
    rcases List.mem_append.mp hb with hb | hb
    · exact ho.returned a b hb
    · exact hmv a b (List.mem_singleton.mp hb).symm
  obtain ⟨a', ha'⟩ := hraw
  exact ⟨a', List.mem_append_left _ ha'⟩

/-- A movement without a string leaves the table to the history before it. -/
theorem moved (ho : Owned h m) (hmade : mv.creation? = none) (hfreed : mv.releasedString? = none)
    (hback : ∀ a b, mv = .returned a b → ∃ a', .allocated a' b ∈ h) : Owned (h ++ [mv]) m where
  strings := by
    simp only [creations_concat, releasedStrings_concat, hmade, hfreed, Option.toList_none,
      List.append_nil]
    exact ho.strings
  place := by
    rw [creations_concat, hmade, Option.toList_none, List.append_nil]
    exact ho.place
  lengths := by
    rw [creations_concat, hmade, Option.toList_none, List.append_nil]
    exact ho.lengths
  released := ho.released_concat fun s a b heq => by
    rw [heq] at hfreed
    simp [Movement.releasedString?] at hfreed
  returned := ho.returned_concat hback

/-- The string that is made next was never released. -/
theorem not_released (ho : Owned h m) : (⟨m.strings.length⟩ : StringId) ∉ releasedStrings h := by
  intro hs
  obtain ⟨a, b, hs⟩ := mem_releasedStrings.mp hs
  obtain ⟨text, htext⟩ := ho.released _ a b hs
  have hmade : (⟨_, a, b, text⟩ : Creation) ∈ creations h := mem_creations.mpr htext
  have hat := ho.getElem?_creations hmade
  have hlt : m.strings.length < (creations h).length := (List.getElem?_eq_some_iff.mp hat).1
  rw [ho.strings, List.length_map] at hlt
  exact Nat.lt_irrefl _ hlt

/-- A new string stands behind the others and is not released. -/
theorem created {text : Text} {n : Nat} (ho : Owned h m) (hm : Accounted limits h m)
    (hp : m.provide a n = (m', some b)) (hn : n = (Utf8.encode text).length + 1) :
    Owned (h ++ [.created ⟨m.strings.length⟩ a b text]) (m'.written b text a) := by
  have hlen := byteLength_provided hm.heaps hp
  obtain ⟨limit, -, -, -, rfl, rfl⟩ := provide_some hm.heaps hp
  have hwritten : (m.provided a limit n).KeepsSizes
      ((m.provided a limit n).written ⟨m.blocks.length⟩ text a) := .written (by rw [hlen]; omega)
  have hsizes := KeepsSizes.trans (.provided m a limit n) hwritten
  have hcount : (creations h).length = m.strings.length := by rw [ho.strings, List.length_map]
  refine ⟨?_, ?_, ?_, ?_, ?_⟩
  · rw [written_strings, provided_strings, creations_concat, releasedStrings_concat]
    simp only [Movement.creation?, Movement.releasedString?, Option.toList_some, Option.toList_none,
      List.append_nil, List.map_append, ← ho.strings, List.map_cons, List.map_nil,
      ho.not_released, decide_false]
  · intro i c hc
    rw [creations_concat, List.getElem?_append] at hc
    split at hc
    · exact ho.place i c hc
    · simp only [Movement.creation?, Option.toList_some, List.getElem?_singleton] at hc
      split at hc
      · simp only [Option.some.injEq] at hc
        subst hc
        refine StringId.ext ?_
        show m.strings.length = i
        omega
      · simp at hc
  · intro c hc
    rw [creations_concat] at hc
    rcases List.mem_append.mp hc with hc | hc
    · rw [(hsizes c.block (hm.holds_creation hc)).2, ho.lengths c hc]
    · simp only [Movement.creation?, Option.toList_some, List.mem_singleton] at hc
      subst hc
      rw [(hwritten _ (holds_provided m a limit n)).2, hlen, hn]
  · exact ho.released_concat (by simp)
  · exact ho.returned_concat (by simp)

/-- A string that can be released was made. -/
theorem creation_of_not_released (ho : Owned h m) (hs : (m.string s).released = false) :
    ∃ c ∈ creations h, c.string = s ∧ c.string ∉ releasedStrings h
      ∧ m.string s = ⟨c.block, c.allocator, false⟩ := by
  obtain ⟨c, hc, rfl⟩ :=
    ho.exists_creation (List.getElem?_eq_some_iff.mp (getElem?_of_not_released hs)).1
  have hstring := ho.string_eq hc
  rw [hstring, decide_eq_false_iff_not] at hs
  refine ⟨c, hc, rfl, hs, ?_⟩
  rw [hstring, decide_eq_false hs]

/-- A string released is released in the table and in the history. -/
theorem freed (ho : Owned h m) (hs : (m.string s).released = false)
    (hstrings : m'.strings = (m.markReleased s).strings) (hblocks : m'.blocks = m.blocks) :
    Owned (h ++ [.released s (m.string s).allocator (m.string s).block]) m' where
  strings := by
    rw [hstrings, markReleased, ho.strings, creations_concat, releasedStrings_concat]
    -- Place by place: the history releases the string of that place exactly when the table does.
    apply List.ext_getElem?
    intro i
    simp only [Movement.creation?, Option.toList_none, List.append_nil, Movement.releasedString?,
      Option.toList_some, List.getElem?_modify, List.getElem?_map, List.mem_append,
      List.mem_singleton]
    cases hc : (creations h)[i]? with
    | none => rfl
    | some c =>
      have hplace := ho.place i c hc
      by_cases hi : s.index = i
      · have heq : c.string = s := hplace.trans (StringId.ext hi.symm)
        simp [hi, heq]
      · have hne : c.string ≠ s := fun heq => hi (by rw [← heq, hplace])
        simp [hi, hne]
  place := by
    rw [creations_concat]
    simpa only [Movement.creation?, Option.toList_none, List.append_nil] using ho.place
  lengths c hc := by
    rw [creations_concat] at hc
    simp only [Movement.creation?, Option.toList_none, List.append_nil] at hc
    rw [byteLength, contents_congr hblocks]
    exact ho.lengths c hc
  released := ho.released_concat fun s' a b heq => by
    obtain ⟨c, hc, rfl, -, hstring⟩ := ho.creation_of_not_released hs
    rw [hstring, Movement.released.injEq] at heq
    obtain ⟨rfl, rfl, rfl⟩ := heq
    exact ⟨c.text, mem_creations.mp hc⟩
  returned := ho.returned_concat (by simp)

/-! ## Strings and the blocks that are live -/

/-- Two makings of one string are the same. -/
theorem creation_inj (ho : Owned h m) {c c' : Creation} (hc : c ∈ creations h)
    (hc' : c' ∈ creations h) (heq : c.string = c'.string) : c = c' := by
  have hat := ho.getElem?_creations hc
  rw [heq, ho.getElem?_creations hc', Option.some.injEq] at hat
  exact hat.symm

/-- **The block of a string is live as long as the string is not released**, in the allocator that
it came from. -/
theorem live_iff (ho : Owned h m) (hm : Accounted limits h m) {c : Creation}
    (hc : c ∈ creations h) : c.block ∈ m.live c.allocator ↔ c.string ∉ releasedStrings h := by
  have hmade := mem_creations.mp hc
  rw [hm.mem_live, mem_takenBack]
  constructor
  · rintro ⟨-, hnot⟩ hs
    obtain ⟨a, b, hs⟩ := mem_releasedStrings.mp hs
    obtain ⟨text, htext⟩ := ho.released _ a b hs
    have hmade' : (⟨c.string, a, b, text⟩ : Creation) ∈ creations h := mem_creations.mpr htext
    have heq := ho.creation_inj hc hmade' rfl
    refine hnot (Or.inr ⟨c.string, ?_⟩)
    rw [heq]
    exact hs
  · intro hnot
    refine ⟨mem_handedOut_of_out? hmade rfl, ?_⟩
    -- The block was handed out by one movement, so nothing but a release of this string can have
    -- taken it back.
    rintro (hback | ⟨s, hback⟩)
    · obtain ⟨a, ha⟩ := ho.returned _ _ hback
      have heq := hm.movement_inj hmade ha rfl rfl
      simp at heq
    · obtain ⟨text, htext⟩ := ho.released _ _ _ hback
      have heq := hm.movement_inj hmade htext rfl rfl
      rw [Movement.created.injEq] at heq
      exact hnot (mem_releasedStrings.mpr ⟨_, _, heq.1 ▸ hback⟩)

/-- **No allocator refuses the block of a string** that is not released. -/
theorem live_of_not_released (ho : Owned h m) (hm : Accounted limits h m)
    (hs : (m.string s).released = false) :
    (m.string s).block ∈ m.live (m.string s).allocator := by
  obtain ⟨c, hc, rfl, hnot, hstring⟩ := ho.creation_of_not_released hs
  rw [hstring]
  exact (ho.live_iff hm hc).mpr hnot

/-- **Every operation that leaves the blocks of strings to their strings keeps the table.** -/
theorem perform (ho : Owned h m) (hm : Accounted limits h m) {operation : Operation}
    (hkeeps : Keeps h operation) :
    Owned (h ++ m.movements operation) (m.perform operation).1 := by
  have hstep := perform_transition hm.heaps operation
  generalize m.movements operation = moved, (m.perform operation).1 = m' at hstep ⊢
  cases hstep with
  | idle => simpa using ho
  | adopt bytes => simpa using ho.frame hm (addBlock_strings m bytes) (.addBlock m bytes)
  | wrap b a => exact hkeeps.elim
  | poke b index value =>
    simpa using ho.frame hm (poke_strings m b index value) (.poke m b index value)
  | refuse unreleased notLive => exact absurd (ho.live_of_not_released hm unreleased) notLive
  | @allocate a size n b m' provided =>
    obtain ⟨limit, -, -, -, rfl, rfl⟩ := provide_some hm.heaps provided
    have hsame := ho.frame hm (provided_strings m a limit n) (.provided m a limit n)
    exact hsame.moved rfl rfl (by simp)
  | create provided => exact ho.created hm provided rfl
  | @returnBlock a b m' returned =>
    have hafter : (m.returnBlock a b).1 = m' := by rw [returned]
    obtain ⟨⟨a', b'⟩, hraw, rfl⟩ := List.mem_map.mp hkeeps
    have hsame : Owned h m' := by
      rw [← hafter]
      exact ho.frame hm (returnBlock_strings ..) (.of_blocks_eq (returnBlock_blocks ..))
    refine hsame.moved rfl rfl ?_
    intro a'' b'' heq
    rw [Movement.returned.injEq] at heq
    exact ⟨a', heq.2 ▸ mem_raw.mp hraw⟩
  | @release s m' unreleased returned =>
    have hafter : ((m.markReleased s).returnBlock (m.string s).allocator (m.string s).block).1
        = m' := by rw [returned]
    refine ho.freed unreleased ?_ ?_
    · rw [← hafter, returnBlock_strings]
    · rw [← hafter, returnBlock_blocks, markReleased_blocks]

end Owned

/-- **After every run** of such operations, strings and heaps are what the history says. -/
theorem owned_run {operations : List Operation} (hm : Accounted limits h m) (ho : Owned h m)
    (hkeeps : Follows Keeps h m operations) :
    Accounted limits (h ++ m.history operations) (m.run operations).1
      ∧ Owned (h ++ m.history operations) (m.run operations).1 :=
  run_induction (P := fun h m => Accounted limits h m ∧ Owned h m)
    (fun _ _ operation hP hkeep => ⟨hP.1.perform operation, hP.2.perform hP.1 hkeep⟩)
    hkeeps ⟨hm, ho⟩

end Turnstile.Memory
