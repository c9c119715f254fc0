import Turnstile.Proofs.Memory.Transition
import Turnstile.Proofs.Text.Utf8

/-! # The text of a new string

A string that is made around a block of the right size fills it: first the text, then a zero byte,
whatever was in the block before. The text read back is the one that was written, but for lone
surrogates and a byte order mark in front.

* **`Allocator.IsExact`** says that an allocator answers with blocks of the size that was asked for.
* **`Memory.HoldsText`** says what a string knows about a text that was written into its block, and
  **`createString_holdsText`** that every new string does. -/

namespace Turnstile

/-- **An allocator whose blocks have the size that was asked for**, with any bytes in them. -/
def Allocator.IsExact : Allocator → Prop
  | .heap .. => True
  | .supplied supply _ _ =>
    ∀ (request size : Nat) (bytes : List UInt8), supply request size = some bytes →
      bytes.length = size

/-- Blocks of one byte over and over have the size that was asked for. -/
theorem Allocator.isExact_filled (fill : UInt8) : (Allocator.filled 0 fill).IsExact := by
  intro request size bytes hbytes
  rw [← Option.some.inj hbytes, List.length_replicate]
  omega

namespace Memory

variable {m m' : Memory} {a : AllocatorId} {b : BlockId} {s : StringId} {text : Text}

/-- The bytes that are written for a text: its UTF-8 bytes with lone surrogates replaced. -/
def textBytes (text : Text) : List UInt8 := Utf8.encode text.repair

/-- **A string that holds a text** in a block. -/
structure HoldsText (m : Memory) (s : StringId) (b : BlockId) (text : Text) : Prop where
  /-- The string is not released, and the block is its block. -/
  block : m.blockOf s = .ok b
  /-- The block is the text and a zero byte, and nothing else, -/
  contents : m.contents b = textBytes text ++ [0]
  /-- and there is no zero byte before the last one. -/
  noZero : 0 ∉ textBytes text
  /-- The length is that of the text alone. -/
  length : m.stringLength s = .ok ((textBytes text).length : Nat)
  /-- The text is the repaired one without a byte order mark in front. -/
  text : m.stringText s = .ok text.repair.dropMark

/-! ## Blocks of the right size -/

/-- The block of an exact allocator is in the memory and has the size that was asked for. -/
theorem provide_exact {n : Nat} (hexact : (m.allocator a).IsExact)
    (hp : m.provide a n = (m', some b)) : m'.Holds b ∧ m'.byteLength b = n := by
  have hlast : ∀ (m : Memory) (bytes : List UInt8),
      (m.addBlock bytes).1.Holds (m.addBlock bytes).2
        ∧ (m.addBlock bytes).1.byteLength (m.addBlock bytes).2 = bytes.length := by
    intro m bytes
    rw [addBlock_id, Holds, byteLength, contents_addBlock_self, addBlock_blocks, List.length_append]
    exact ⟨Nat.lt_succ_self _, rfl⟩
  -- Either way the block is the last one that was added.
  rw [provide] at hp
  cases hstate : m.allocator a with
  | heap limit live used =>
    simp only [hstate, Int.toNat_natCast] at hp
    split at hp
    · simp at hp
    · simp only [Prod.mk.injEq, Option.some.injEq] at hp
      obtain ⟨rfl, rfl⟩ := hp
      have hnew := hlast m (List.replicate n 0)
      rw [List.length_replicate] at hnew
      exact hnew
  | supplied supply requests returns =>
    rw [hstate] at hexact
    simp only [hstate] at hp
    split at hp
    · simp at hp
    · next bytes hbytes =>
      simp only [Prod.mk.injEq, Option.some.injEq] at hp
      obtain ⟨rfl, rfl⟩ := hp
      rw [← hexact requests n bytes hbytes]
      exact hlast _ bytes

/-- What was in a block of the right size does not matter once a text is written into it. -/
theorem terminated_of_length {bytes encoded : List UInt8}
    (hlen : bytes.length = encoded.length + 1) : terminated bytes encoded = encoded ++ [0] := by
  have hrest : (bytes.drop encoded.length).length = 1 := by
    rw [List.length_drop]
    omega
  obtain ⟨last, hlast⟩ := List.length_eq_one_iff.mp hrest
  rw [terminated, overwrite, hlast, List.set_append_right _ _ (Nat.le_refl _), Nat.sub_self]
  rfl

/-! ## Giving a new string back -/

/-- **A string that was just made by a heap can be given back.** -/
theorem releaseString_created {limits : List Number} (hm : HasLimits limits m)
    (h : m.createString text a = (m', .ok (some s))) :
    (m'.string s).released = false ∧ (m'.releaseString s).2 = .ok () := by
  obtain ⟨m₁, b, -, hp, -, rfl, rfl⟩ := createString_some h
  obtain ⟨limit, hl, -, -, rfl, rfl⟩ := provide_some hm hp
  have hstring := string_written (m.provided a limit ((Utf8.encode text).length + 1))
    ⟨m.blocks.length⟩ text a
  refine ⟨by rw [hstring], ?_⟩
  -- The block went into the live ones when it was handed out, and nothing changed that since.
  rw [releaseString, hstring, if_neg Bool.false_ne_true]
  have hheaps : HasLimits limits (((m.provided a limit ((Utf8.encode text).length + 1)).written
      ⟨m.blocks.length⟩ text a).markReleased ⟨m.strings.length⟩) := hm.provided hl _
  refine (returnBlock_eq_ok_iff hheaps hl _).mpr ?_
  show _ ∈ (m.provided a limit ((Utf8.encode text).length + 1)).live a
  rw [hm.live_provided hl, if_pos rfl]
  exact List.mem_cons_self

/-! ## Reading a new string -/

/-- A string in a block that ends in one byte more reads without that byte. -/
theorem reads_of_contents {bytes : List UInt8} (hb : m.blockOf s = .ok b)
    (hbytes : m.contents b = bytes ++ [0]) :
    m.stringLength s = .ok (bytes.length : Nat) ∧ m.stringText s = .ok (Utf8.read bytes) := by
  constructor
  · rw [stringLength, hb]
    simp [Except.map, hbytes]
  · rw [stringText, hb]
    simp [Except.map, hbytes]

/-- The string around a block into which a text was written. -/
theorem holdsText_written (hnul : 0 ∉ text) (hb : m.Holds b)
    (hlen : m.byteLength b = (Utf8.encode text).length + 1) :
    (m.written b text a).HoldsText ⟨m.strings.length⟩ b text := by
  have hblock : (m.written b text a).blockOf ⟨m.strings.length⟩ = .ok b := by
    rw [blockOf, string_written]
    rfl
  have hcontents : (m.written b text a).contents b = textBytes text ++ [0] := by
    have hset := contents_setContents hb (terminated (m.contents b) (Utf8.encode text)) b
    rw [if_pos rfl] at hset
    rw [textBytes, Utf8.encode_repair, ← terminated_of_length hlen]
    exact hset
  obtain ⟨hlength, htext⟩ := reads_of_contents hblock hcontents
  have hrepaired : textBytes text = Utf8.encode text := Utf8.encode_repair text
  exact {
    block := hblock
    contents := hcontents
    noZero := by
      rw [hrepaired]
      exact Utf8.zero_not_mem_encode hnul
    length := hlength
    text := by
      rw [htext, hrepaired, Utf8.read_encode] }

theorem contains_zero (hnul : 0 ∉ text) : text.contains 0 = false := by
  rw [← Bool.not_eq_true, List.contains_iff_mem]
  exact hnul

/-- Without a block there is no string. -/
theorem createString_of_none (hnul : 0 ∉ text)
    (hp : m.provide a ((textBytes text).length + 1 : Nat) = (m', none)) :
    m.createString text a = (m', .ok none) := by
  rw [textBytes, Utf8.encode_repair] at hp
  rw [createString_request (contains_zero hnul), hp]

/-- A block of the size that was asked for gets a string around it, and the text into it. -/
theorem createString_of_some (hexact : (m.allocator a).IsExact) (hnul : 0 ∉ text)
    (hp : m.provide a ((textBytes text).length + 1 : Nat) = (m', some b)) :
    m.createString text a = (m'.written b text a, .ok (some ⟨m'.strings.length⟩))
      ∧ (m'.written b text a).HoldsText ⟨m'.strings.length⟩ b text := by
  rw [textBytes, Utf8.encode_repair] at hp
  obtain ⟨hb, hlen⟩ := provide_exact hexact hp
  have hroom : ¬ (m'.contents b).length < (Utf8.encode text).length := by
    rw [← byteLength, hlen]
    omega
  refine ⟨?_, holdsText_written hnul hb hlen⟩
  rw [createString_request (contains_zero hnul), hp]
  simp only [if_neg hroom]

/-- **A string is made by one request**, for room for the bytes of its text and one more. Without a
block there is no string; a block of that size is filled, whatever it held, and read back from, and
no allocator is asked for anything else. -/
theorem createString_holdsText (m : Memory) (a : AllocatorId) (text : Text)
    (hexact : (m.allocator a).IsExact) (hnul : 0 ∉ text) :
    (∀ m', m.provide a ((textBytes text).length + 1 : Nat) = (m', none) →
      m.createString text a = (m', .ok none))
    ∧ ∀ m' b, m.provide a ((textBytes text).length + 1 : Nat) = (m', some b) →
      ∃ m'' s, m.createString text a = (m'', .ok (some s)) ∧ m''.allocators = m'.allocators
        ∧ m''.HoldsText s b text := by
  constructor
  · intro m' hp
    exact createString_of_none hnul hp
  · intro m' b hp
    obtain ⟨hcreated, hholds⟩ := createString_of_some hexact hnul hp
    exact ⟨_, _, hcreated, written_allocators m' b text a, hholds⟩

/-- A text with a mark in front, a lone surrogate, and characters of one, two, three and four bytes.
-/
def mixedText : Text := [0xFEFF, 0x61, 0xD800, 0xE9, 0x20AC, 0xD83D, 0xDE00]

/-- A memory with an allocator whose blocks are full of ones. -/
def filledMemory : Memory := ⟨[], [.filled 0 0xFF], [], 0⟩

theorem createString_holdsText_mixedText :
    ∃ m' s, filledMemory.createString mixedText ⟨0⟩ = (m', .ok (some s))
      ∧ m'.allocators = (filledMemory.provide ⟨0⟩ 17).1.allocators
      ∧ m'.HoldsText s ⟨0⟩ mixedText := by
  have hprovided : (filledMemory.provide ⟨0⟩ ((textBytes mixedText).length + 1 : Nat)).2
      = some ⟨0⟩ := by decide
  exact (createString_holdsText filledMemory ⟨0⟩ mixedText (Allocator.isExact_filled 0xFF)
    (by decide)).2 _ ⟨0⟩ (Prod.ext rfl hprovided)

end Memory

end Turnstile
