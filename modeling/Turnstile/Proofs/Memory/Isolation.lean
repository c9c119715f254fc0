import Turnstile.Proofs.Memory.Ownership
import Turnstile.Proofs.Memory.StringLife

/-! # Blocks do not touch each other

A block keeps its bytes until someone pokes into that very block: every other operation leaves the
blocks that are there alone, and a block that is handed out is put behind them.

* **`poked`** is what an operation does to the bytes of a block; **`contents_perform`** and
  **`contents_run`** say that an operation, and a whole run, does nothing else to them.
* **`ReadsAlike`** says that a string answers alike in two memories, and **`Operation.IsOn`** which
  operations are on a string.
* **`Isolated`** puts this together for a run, and **`contents_isolated`** says that it holds of every
  run. -/

namespace Turnstile.Memory

variable {limits : List Number} {h : List Movement} {m m' : Memory} {b : BlockId} {s s' : StringId}
  {operation : Operation}

/-! ## Pokes -/

/-- The byte that a value is stored as. -/
def storedByte (value : Int) : UInt8 := UInt8.ofNat (value % 256).toNat

/-- **What an operation does to the bytes of a block**: a poke into this block changes one of them,
if there is one at its index, and nothing else changes any. -/
def poked (b : BlockId) (bytes : List UInt8) : Operation → List UInt8
  | .poke target index value =>
    if target = b ∧ 0 ≤ index then bytes.set index.toNat (storedByte value) else bytes
  | _ => bytes

/-- A block that is not there has no bytes. -/
theorem contents_of_not_holds (hb : ¬ m.Holds b) : m.contents b = [] := by
  rw [contents, List.getElem?_eq_none_iff.mpr (Nat.le_of_not_lt hb), Option.getD_none]

/-- A poke does that to every block, also to one that is not there. -/
theorem contents_poke (m : Memory) (target : BlockId) (index value : Int) (b : BlockId) :
    (m.poke target index value).contents b = poked b (m.contents b) (.poke target index value) := by
  rw [poke, poked]
  by_cases hindex : index < 0
  · have hnone : ¬ (target = b ∧ 0 ≤ index) := by
      intro hboth
      omega
    rw [if_pos hindex, if_neg hnone]
  · have hfits : 0 ≤ index := Int.not_lt.mp hindex
    rw [if_neg hindex]
    by_cases htarget : m.Holds target
    · rw [contents_setContents htarget]
      by_cases hb : b = target
      · subst hb
        rw [if_pos rfl, if_pos ⟨rfl, hfits⟩, storedByte]
      · have hother : ¬ (target = b ∧ 0 ≤ index) := fun hboth => hb hboth.1.symm
        rw [if_neg hb, if_neg hother]
    · -- There is no block to poke into, so both sides are what they were.
      have hsame : (m.setContents target
          ((m.contents target).set index.toNat (UInt8.ofNat (value % 256).toNat))).contents b
            = m.contents b := by
        apply contents_congr
        rw [setContents_blocks, List.set_eq_of_length_le (Nat.le_of_not_lt htarget)]
      rw [hsame]
      split
      · next hboth =>
        obtain ⟨rfl, -⟩ := hboth
        rw [contents_of_not_holds htarget, List.set_nil]
      · rfl

/-- **A poke changes one byte of one block**: the byte at its index, if the block has one there. -/
theorem getElem?_contents_poke (m : Memory) (target : BlockId) (index value : Int) (b : BlockId)
    (i : Nat) :
    ((m.poke target index value).contents b)[i]?
      = if b = target ∧ (i : Int) = index then (m.contents b)[i]?.map fun _ => storedByte value
        else (m.contents b)[i]? := by
  rw [contents_poke, poked]
  by_cases hat : b = target ∧ (i : Int) = index
  · obtain ⟨rfl, rfl⟩ := hat
    rw [if_pos ⟨rfl, Int.natCast_nonneg i⟩, if_pos ⟨rfl, rfl⟩, Int.toNat_natCast, List.getElem?_set]
    by_cases hi : i < (m.contents b).length
    · simp [hi]
    · simp [hi]
  · rw [if_neg hat]
    split
    · next htarget =>
      obtain ⟨rfl, hfits⟩ := htarget
      have hne : index.toNat ≠ i := by
        intro heq
        exact hat ⟨rfl, by omega⟩
      rw [List.getElem?_set_ne hne]
    · rfl

/-! ## All other operations -/

/-- Blocks that are added behind the others change none of them. -/
theorem contents_of_extended (hblocks : m.blocks <+: m'.blocks) (hb : m.Holds b) :
    m'.Holds b ∧ m'.contents b = m.contents b := by
  obtain ⟨added, hadded⟩ := hblocks
  constructor
  · rw [Holds, ← hadded, List.length_append]
    exact Nat.lt_add_right _ hb
  · rw [contents, contents, ← hadded, List.getElem?_append_left hb]

/-- **No other operation touches a block that is there**: what a request or the making of a string
brings in is put behind them, and there it is written to. -/
theorem blocks_prefix_perform (hm : HasLimits limits m)
    (hpoke : ∀ target index value, operation ≠ .poke target index value) :
    m.blocks <+: (m.perform operation).1.blocks := by
  have hstep := perform_transition hm operation
  generalize m.movements operation = moved, (m.perform operation).1 = after at hstep ⊢
  cases hstep with
  | idle => exact List.prefix_rfl
  | adopt bytes => exact List.prefix_append _ _
  | wrap b a => exact List.prefix_rfl
  | poke target index value => exact absurd rfl (hpoke target index value)
  | refuse => exact List.prefix_rfl
  | @allocate a size n b after provided =>
    obtain ⟨limit, -, -, -, rfl, rfl⟩ := provide_some hm provided
    exact List.prefix_append _ _
  | @create text a b after provided =>
    obtain ⟨limit, -, -, -, rfl, rfl⟩ := provide_some hm provided
    -- The text goes into the last block, which was not there before.
    rw [written, wrap]
    show m.blocks <+: (m.blocks ++ [_]).set m.blocks.length _
    rw [List.set_append_right _ _ (Nat.le_refl _)]
    exact List.prefix_append _ _
  | @returnBlock a b after returned =>
    have hblocks : (m.returnBlock a b).1.blocks = m.blocks := returnBlock_blocks m a b
    rw [returned] at hblocks
    exact hblocks ▸ List.prefix_rfl
  | @release s after unreleased returned =>
    have hblocks := returnBlock_blocks (m.markReleased s) (m.string s).allocator (m.string s).block
    rw [returned, markReleased_blocks] at hblocks
    exact hblocks ▸ List.prefix_rfl

/-- **An operation changes the bytes of a block by a poke into it, or not at all.** -/
theorem contents_perform (hm : HasLimits limits m) (hb : m.Holds b) (operation : Operation) :
    (m.perform operation).1.contents b = poked b (m.contents b) operation := by
  by_cases hpoke : ∃ target index value, operation = .poke target index value
  · obtain ⟨target, index, value, rfl⟩ := hpoke
    exact contents_poke m target index value b
  · have hother : ∀ target index value, operation ≠ .poke target index value := by
      intro target index value heq
      exact hpoke ⟨target, index, value, heq⟩
    have hkept : poked b (m.contents b) operation = m.contents b := by
      cases operation with
      | poke target index value => exact absurd rfl (hother target index value)
      | _ => rfl
    rw [hkept]
    exact (contents_of_extended (blocks_prefix_perform hm hother) hb).2

/-- **A run changes the bytes of a block by the pokes into it**, one after the other. -/
theorem contents_run (hm : Accounted limits h m) (hb : m.Holds b) (operations : List Operation) :
    (m.run operations).1.contents b = operations.foldl (poked b) (m.contents b) := by
  induction operations generalizing h m with
  | nil => rfl
  | cons operation rest ih =>
    have hstays : (m.perform operation).1.Holds b := (perform_keepsSizes hm.heaps operation b hb).1
    rw [run_cons, List.foldl_cons, ← contents_perform hm.heaps hb operation]
    exact ih (hm.perform operation) hstays

/-- Operations among which there is no poke into a block leave its bytes as they are. -/
theorem foldl_poked_of_forall {operations : List Operation} (bytes : List UInt8)
    (hnone : ∀ index value, .poke b index value ∉ operations) :
    operations.foldl (poked b) bytes = bytes := by
  induction operations with
  | nil => rfl
  | cons operation rest ih =>
    have hfirst : poked b bytes operation = bytes := by
      cases operation with
      | poke target index value =>
        have hne : target ≠ b := by
          rintro rfl
          exact hnone index value List.mem_cons_self
        rw [poked, if_neg fun hboth => hne hboth.1]
      | _ => rfl
    rw [List.foldl_cons, hfirst]
    apply ih
    intro index value hmem
    exact hnone index value (List.mem_cons_of_mem _ hmem)

/-! ## What a string reads -/

/-- **A string answers alike** in two memories: its block, the bytes in it, its length and its text, or
that it is released. -/
structure ReadsAlike (m m' : Memory) (s : StringId) : Prop where
  block : m'.blockOf s = m.blockOf s
  bytes : (m'.blockOf s).map m'.contents = (m.blockOf s).map m.contents
  length : m'.stringLength s = m.stringLength s
  text : m'.stringText s = m.stringText s

/-- A string reads what is in its block. -/
theorem readsAlike_of_contents (hstring : m'.string s = m.string s)
    (hcontents : m'.contents (m.string s).block = m.contents (m.string s).block) :
    ReadsAlike m m' s := by
  have hblock : m'.blockOf s = m.blockOf s := by rw [blockOf, blockOf, hstring]
  have hread : ∀ {α : Type} (f : List UInt8 → α), (m'.blockOf s).map (fun b => f (m'.contents b))
      = (m.blockOf s).map fun b => f (m.contents b) := by
    intro α f
    rw [hblock, blockOf]
    cases (m.string s).released with
    | true => rfl
    | false => simp [Except.map, hcontents]
  exact ⟨hblock, hread id, hread fun bytes => (bytes.length : Int) - 1,
    hread fun bytes => Utf8.read bytes.dropLast⟩

/-- A string that is known and is not what a release is about stays as it is. -/
theorem string_perform_eq (hs : m.Knows s) (hother : operation ≠ .release (some s)) :
    (m.perform operation).1.string s = m.string s := by
  obtain ⟨hblock, hallocator, hreleased⟩ := string_perform hs operation
  rw [or_iff_left hother] at hreleased
  cases hafter : (m.perform operation).1.string s with
  | mk block allocator released =>
    rw [hafter] at hblock hallocator hreleased
    obtain rfl : block = (m.string s).block := hblock
    obtain rfl : allocator = (m.string s).allocator := hallocator
    obtain rfl : released = (m.string s).released := Bool.eq_iff_iff.mpr hreleased
    rfl

/-- A string that is not released in the end was not released by any operation. -/
theorem string_run_eq {operations : List Operation} (hs : m.Knows s)
    (hend : ((m.run operations).1.string s).released = false) :
    (m.run operations).1.string s = m.string s := by
  induction operations generalizing m with
  | nil => rfl
  | cons operation rest ih =>
    rw [run_cons] at hend ⊢
    have hrest := ih (hs.perform operation) hend
    have hother : operation ≠ .release (some s) := by
      -- A release is never taken back, so the string would still be released in the end.
      rintro rfl
      have hreleased := (string_perform hs (.release (some s))).2.2.mpr (Or.inr rfl)
      rw [← hrest, hend] at hreleased
      exact Bool.noConfusion hreleased
    rw [hrest, string_perform_eq hs hother]

/-! ## Strings that were made -/

/-- A string that an operation makes is known from then on, with the block that it was made with. -/
theorem string_of_mem_movements (hm : HasLimits limits m) {a : AllocatorId} {text : Text}
    (hmade : .created s a b text ∈ m.movements operation) :
    (m.perform operation).1.Knows s ∧ ((m.perform operation).1.string s).block = b := by
  have hstep := perform_transition hm operation
  generalize m.movements operation = moved, (m.perform operation).1 = after at hstep hmade ⊢
  cases hstep with
  | @create text' a' b' m' provided =>
    obtain ⟨limit, -, -, -, rfl, rfl⟩ := provide_some hm provided
    rw [List.mem_singleton, Movement.created.injEq] at hmade
    obtain ⟨rfl, rfl, rfl, rfl⟩ := hmade
    rw [← provided_strings m a limit ((Utf8.encode text).length + 1), string_written]
    simp [Knows]
  | _ => simp at hmade

/-- It keeps that block until the end of the run. -/
theorem string_of_mem_history (hm : Accounted limits h m) {operations : List Operation}
    {a : AllocatorId} {text : Text} (hmade : .created s a b text ∈ m.history operations) :
    (m.run operations).1.Knows s ∧ ((m.run operations).1.string s).block = b := by
  induction operations generalizing h m with
  | nil => simp [history] at hmade
  | cons operation rest ih =>
    rw [history, List.mem_append] at hmade
    rw [run_cons]
    rcases hmade with hnow | hlater
    · -- No later operation gives a string another block.
      obtain ⟨hknows, hblock⟩ := string_of_mem_movements hm.heaps hnow
      rw [(string_run hknows rest).1]
      exact ⟨hknows.run rest, hblock⟩
    · exact ih (hm.perform operation) hlater

/-- **An operation on a string**: it names the string, or the block of the string. -/
inductive Operation.IsOn (m : Memory) (s : StringId) : Operation → Prop where
  | release : IsOn m s (.release (some s))
  | isReleased : IsOn m s (.isReleased s)
  | readText : IsOn m s (.readText s)
  | readLength : IsOn m s (.readLength s)
  | readBlock : IsOn m s (.readBlock s)
  | poke (index value : Int) : IsOn m s (.poke (m.string s).block index value)
  | returnBlock (a : AllocatorId) : IsOn m s (.returnBlock a (m.string s).block)
  | wrap (a : AllocatorId) : IsOn m s (.wrap (m.string s).block a)

/-- An operation on one string is no operation on another one with a block of its own. -/
theorem readsAlike_of_isOn (hm : HasLimits limits m) (hs : m.Knows s')
    (hb : m.Holds (m.string s').block) (hne : s ≠ s')
    (hblocks : (m.string s).block ≠ (m.string s').block) (hon : operation.IsOn m s) :
    ReadsAlike m (m.perform operation).1 s' := by
  have hother : operation ≠ .release (some s') := by
    rintro rfl
    cases hon
    exact hne rfl
  apply readsAlike_of_contents (string_perform_eq hs hother)
  rw [contents_perform hm hb]
  cases hon with
  | poke index value => rw [poked, if_neg fun hboth => hblocks hboth.1]
  | _ => rfl

/-! ## The result -/

/-- **At most one byte tells two memories apart**: the one at an index of a block. If the block has a
byte there, it holds the given value in the second memory. -/
structure DiffersInByte (m m' : Memory) (target : BlockId) (index value : Int) : Prop where
  blocks : m'.blocks.length = m.blocks.length
  bytes : ∀ (b : BlockId) (i : Nat), (m'.contents b)[i]?
    = if b = target ∧ (i : Int) = index then (m.contents b)[i]?.map fun _ => storedByte value
      else (m.contents b)[i]?
  allocators : m'.allocators = m.allocators
  strings : m'.strings = m.strings

/-- Every block of one memory is in another with the same bytes. -/
def KeepsContents (m m' : Memory) : Prop :=
  ∀ b, m.Holds b → m'.Holds b ∧ m'.contents b = m.contents b

theorem differsInByte_poke (m : Memory) (target : BlockId) (index value : Int) :
    DiffersInByte m (m.poke target index value) target index value where
  blocks := by
    rw [poke]
    split
    · rfl
    · rw [setContents_blocks, List.length_set]
  bytes := getElem?_contents_poke m target index value
  allocators := poke_allocators m target index value
  strings := poke_strings m target index value

/-- **Contents are isolated** in a run over heaps: what is known of the step after it, and of what lies
between one of its moments and its end. -/
structure Isolated (start : Memory) (operations : List Operation) : Prop where
  /-- A poke changes one byte of one block, and nothing else. -/
  poke : ∀ target index value, DiffersInByte (start.run operations).1
    ((start.run operations).1.perform (.poke target index value)).1 target index value
  /-- Every other operation changes no byte of a block that was there before. -/
  others : ∀ operation, (∀ target index value, operation ≠ .poke target index value) →
    KeepsContents (start.run operations).1 ((start.run operations).1.perform operation).1
  /-- So the bytes of a block are those of an earlier moment, with the pokes into it since then. -/
  pokes : ∀ earlier later, operations = earlier ++ later → ∀ b, (start.run earlier).1.Holds b →
    (start.run operations).1.contents b
      = later.foldl (poked b) ((start.run earlier).1.contents b)
  /-- A string around a block that is there, and not released in the end, reads as it did before, if
  nobody has poked into its block. -/
  reads : ∀ earlier later, operations = earlier ++ later → ∀ s, (start.run earlier).1.Knows s →
    (start.run earlier).1.Holds ((start.run earlier).1.string s).block →
    ((start.run operations).1.string s).released = false →
    (∀ index value, .poke ((start.run earlier).1.string s).block index value ∉ later) →
      ReadsAlike (start.run earlier).1 (start.run operations).1 s
  /-- Two strings that were made in the run are around two blocks, and no operation on one of them
  changes what the other one reads. -/
  apart : ∀ c ∈ creations (start.history operations), ∀ c' ∈ creations (start.history operations),
    c.string ≠ c'.string →
      ((start.run operations).1.string c.string).block
          ≠ ((start.run operations).1.string c'.string).block
        ∧ ∀ operation, operation.IsOn (start.run operations).1 c.string →
            ReadsAlike (start.run operations).1 ((start.run operations).1.perform operation).1
              c'.string

/-- **In every run over heaps, contents are isolated.** -/
theorem contents_isolated (capacity : Nat) (limits : List Number) (operations : List Operation) :
    Isolated (ofLimits capacity limits) operations := by
  have hm := accounted_run capacity limits operations
  constructor
  · intro target index value
    exact differsInByte_poke _ target index value
  · intro operation hpoke b hb
    exact contents_of_extended (blocks_prefix_perform hm.heaps hpoke) hb
  · rintro earlier later rfl b hb
    rw [run_append]
    exact contents_run (accounted_run capacity limits earlier) hb later
  · rintro earlier later rfl s hs hb hend hnone
    rw [run_append] at hend ⊢
    apply readsAlike_of_contents (string_run_eq hs hend)
    rw [contents_run (accounted_run capacity limits earlier) hb, foldl_poked_of_forall _ hnone]
  · intro c hc c' hc' hne
    have hmade := mem_creations.mp hc
    have hmade' := mem_creations.mp hc'
    obtain ⟨-, hblock⟩ := string_of_mem_history (Accounted.start capacity limits) hmade
    obtain ⟨hknows, hblock'⟩ := string_of_mem_history (Accounted.start capacity limits) hmade'
    -- No block is handed out twice, so one block would mean one making of one string.
    have hblocks : c.block ≠ c'.block := by
      intro heq
      rw [heq] at hmade
      have hsame := hm.movement_inj hmade hmade' rfl rfl
      rw [Movement.created.injEq] at hsame
      exact hne hsame.1
    have hheld := hm.held _ (mem_handedOut_of_out? hmade' rfl)
    rw [hblock, hblock']
    refine ⟨hblocks, ?_⟩
    intro operation hon
    apply readsAlike_of_isOn hm.heaps hknows ?_ hne ?_ hon
    · rw [hblock']
      exact hheld
    · rw [hblock, hblock']
      exact hblocks

end Turnstile.Memory
