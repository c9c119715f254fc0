import Turnstile.Proofs.Text.Repair
import Turnstile.Text.Utf8

/-! # UTF-8 there and back

* **`decode_encode`** says that the reader gets every character back that the writer wrote, from
  each of the four lengths that a character can have.
* **`read_encode`** says the same of units: a repaired text without one byte order mark in front.
* **`zero_not_mem_encode`** says that only a zero unit is written as a zero byte. -/

namespace Turnstile.Utf8

variable {n owed bits : Nat} {least greatest : UInt8}

/-! ## Bytes by number -/

theorem toNat_byte (h : n < 0x100) : (UInt8.ofNat n).toNat = n := by
  rw [UInt8.toNat_ofNat']
  exact Nat.mod_eq_of_lt h

theorem byte_le_iff (h : n < 0x100) {b : UInt8} : UInt8.ofNat n ≤ b ↔ n ≤ b.toNat := by
  rw [UInt8.le_iff_toNat_le, toNat_byte h]

theorem le_byte_iff (h : n < 0x100) {b : UInt8} : b ≤ UInt8.ofNat n ↔ b.toNat ≤ n := by
  rw [UInt8.le_iff_toNat_le, toNat_byte h]

theorem byte_eq_iff (h : n < 0x100) {b : UInt8} : UInt8.ofNat n = b ↔ n = b.toNat := by
  rw [← UInt8.toNat_inj, toNat_byte h]

theorem byte_lt_iff (h : n < 0x100) {b : UInt8} : UInt8.ofNat n < b ↔ n < b.toNat := by
  rw [UInt8.lt_iff_toNat_lt, toNat_byte h]

/-! ## Steps of the reader -/

/-- A byte below `80` is a character by itself. -/
theorem first_single (h : n < 0x80) :
    first (UInt8.ofNat n) = ([Char.ofNat n], .ready) := by
  have hn : n < 0x100 := by omega
  have hascii : UInt8.ofNat n < 0x80 := by
    rw [byte_lt_iff hn]
    exact h
  rw [first, if_pos hascii, toNat_byte hn]

/-- The first of two bytes: two of the possible ones would bring too few bits. -/
theorem first_double (h : n < 0x20) (hleast : 2 ≤ n) :
    first (UInt8.ofNat (n + 0xC0)) = ([], .inside 1 0x80 0xBF n) := by
  revert n
  decide

/-- The first of three bytes: the next one is bounded where the bits would be too few or would be
those of a surrogate. -/
theorem first_triple (h : n < 0x10) :
    first (UInt8.ofNat (n + 0xE0))
      = ([], .inside 2 (if n = 0 then 0xA0 else 0x80) (if n = 0xD then 0x9F else 0xBF) n) := by
  revert n
  decide

/-- The first of four bytes: the next one is bounded where the bits would be too few or too many. -/
theorem first_quadruple (h : n < 5) :
    first (UInt8.ofNat (n + 0xF0))
      = ([], .inside 3 (if n = 0 then 0x90 else 0x80) (if n = 4 then 0x8F else 0xBF) n) := by
  revert n
  decide

/-- A byte that goes on with a character brings six more bits. -/
theorem feed_inside (hn : n < 0x40) (hleast : least.toNat ≤ n + 0x80)
    (hgreatest : n + 0x80 ≤ greatest.toNat) :
    feed (.inside owed least greatest bits) (UInt8.ofNat (n + 0x80))
      = if owed ≤ 1 then ([Char.ofNat (bits * 0x40 + n)], .ready)
        else ([], .inside (owed - 1) 0x80 0xBF (bits * 0x40 + n)) := by
  have hlt : n + 0x80 < 0x100 := by omega
  have hrange : (least ≤ UInt8.ofNat (n + 0x80) && UInt8.ofNat (n + 0x80) ≤ greatest) = true := by
    rw [Bool.and_eq_true_iff, decide_eq_true_eq, decide_eq_true_eq, le_byte_iff hlt,
      byte_le_iff hlt]
    exact ⟨hleast, hgreatest⟩
  rw [feed, if_pos hrange, toNat_byte hlt, Nat.add_sub_cancel]

/-- A byte that goes on with a character where there is no other bound. -/
theorem feed_next (hn : n < 0x40) :
    feed (.inside owed 0x80 0xBF bits) (UInt8.ofNat (n + 0x80))
      = if owed ≤ 1 then ([Char.ofNat (bits * 0x40 + n)], .ready)
        else ([], .inside (owed - 1) 0x80 0xBF (bits * 0x40 + n)) := by
  refine feed_inside hn ?_ ?_
  · show 0x80 ≤ n + 0x80
    omega
  · show n + 0x80 ≤ 0xBF
    omega

theorem decodeFrom_cons (state : State) (b : UInt8) (rest : List UInt8) :
    decodeFrom state (b :: rest) = (feed state b).1 ++ decodeFrom (feed state b).2 rest := by
  cases state <;> rw [decodeFrom]

/-! ## One character -/

/-- Two bytes are read as the character of their bits. -/
theorem decodeFrom_double {v : Nat} (hv : 0x80 ≤ v) (hv' : v ≤ 0x7FF) (rest : List UInt8) :
    decodeFrom .ready (UInt8.ofNat (v / 64 % 0x20 + 0xC0) :: UInt8.ofNat (v % 0x40 + 0x80) :: rest)
      = Char.ofNat v :: decodeFrom .ready rest := by
  have hfirst := @first_double (v / 64 % 0x20) (by omega) (by omega)
  have hlast := @feed_next (v % 0x40) 1 (v / 64 % 0x20) (by omega)
  have hbits : v / 64 % 0x20 * 0x40 + v % 0x40 = v := by omega
  rw [if_pos (Nat.le_refl 1), hbits] at hlast
  rw [decodeFrom_cons, feed, hfirst, decodeFrom_cons, hlast]
  rfl

/-- Three bytes are read as the character of their bits. -/
theorem decodeFrom_triple {v : Nat} (hv : 0x800 ≤ v) (hv' : v ≤ 0xFFFF)
    (hvalid : v < 0xD800 ∨ 0xDFFF < v) (rest : List UInt8) :
    decodeFrom .ready (UInt8.ofNat (v / 4096 % 0x10 + 0xE0) :: UInt8.ofNat (v / 64 % 0x40 + 0x80)
      :: UInt8.ofNat (v % 0x40 + 0x80) :: rest) = Char.ofNat v :: decodeFrom .ready rest := by
  have hfirst := @first_triple (v / 4096 % 0x10) (by omega)
  -- Fewer bits would have fitted into two bytes, and the others would make a surrogate.
  have hleast : (if v / 4096 % 0x10 = 0 then (0xA0 : UInt8) else 0x80).toNat
      ≤ v / 64 % 0x40 + 0x80 := by
    split
    · show 0xA0 ≤ v / 64 % 0x40 + 0x80
      omega
    · show 0x80 ≤ v / 64 % 0x40 + 0x80
      omega
  have hgreatest : v / 64 % 0x40 + 0x80
      ≤ (if v / 4096 % 0x10 = 0xD then (0x9F : UInt8) else 0xBF).toNat := by
    split
    · show v / 64 % 0x40 + 0x80 ≤ 0x9F
      omega
    · show v / 64 % 0x40 + 0x80 ≤ 0xBF
      omega
  have hsecond := @feed_inside _ 2 (v / 4096 % 0x10) _ _ (by omega) hleast hgreatest
  have hlast := @feed_next (v % 0x40) 1 (v / 4096 % 0x10 * 0x40 + v / 64 % 0x40) (by omega)
  have hbits : (v / 4096 % 0x10 * 0x40 + v / 64 % 0x40) * 0x40 + v % 0x40 = v := by omega
  rw [if_neg (show ¬ 2 ≤ 1 by decide)] at hsecond
  rw [if_pos (Nat.le_refl 1), hbits] at hlast
  rw [decodeFrom_cons, feed, hfirst, decodeFrom_cons, hsecond, decodeFrom_cons, hlast]
  rfl

/-- Four bytes are read as the character of their bits. -/
theorem decodeFrom_quadruple {v : Nat} (hv : 0x10000 ≤ v) (hv' : v < 0x110000)
    (rest : List UInt8) :
    decodeFrom .ready (UInt8.ofNat (v / 262144 % 0x08 + 0xF0)
      :: UInt8.ofNat (v / 4096 % 0x40 + 0x80) :: UInt8.ofNat (v / 64 % 0x40 + 0x80)
      :: UInt8.ofNat (v % 0x40 + 0x80) :: rest)
      = Char.ofNat v :: decodeFrom .ready rest := by
  have hfirst := @first_quadruple (v / 262144 % 0x08) (by omega)
  -- Fewer bits would have fitted into three bytes, and no character has more.
  have hleast : (if v / 262144 % 0x08 = 0 then (0x90 : UInt8) else 0x80).toNat
      ≤ v / 4096 % 0x40 + 0x80 := by
    split
    · show 0x90 ≤ v / 4096 % 0x40 + 0x80
      omega
    · show 0x80 ≤ v / 4096 % 0x40 + 0x80
      omega
  have hgreatest : v / 4096 % 0x40 + 0x80
      ≤ (if v / 262144 % 0x08 = 4 then (0x8F : UInt8) else 0xBF).toNat := by
    split
    · show v / 4096 % 0x40 + 0x80 ≤ 0x8F
      omega
    · show v / 4096 % 0x40 + 0x80 ≤ 0xBF
      omega
  have hsecond := @feed_inside _ 3 (v / 262144 % 0x08) _ _ (by omega) hleast hgreatest
  have hthird := @feed_next (v / 64 % 0x40) 2 (v / 262144 % 0x08 * 0x40 + v / 4096 % 0x40)
    (by omega)
  have hlast := @feed_next (v % 0x40) 1
    ((v / 262144 % 0x08 * 0x40 + v / 4096 % 0x40) * 0x40 + v / 64 % 0x40) (by omega)
  have hbits : ((v / 262144 % 0x08 * 0x40 + v / 4096 % 0x40) * 0x40 + v / 64 % 0x40) * 0x40
      + v % 0x40 = v := by omega
  rw [if_neg (show ¬ 3 ≤ 1 by decide)] at hsecond
  rw [if_neg (show ¬ 2 ≤ 1 by decide)] at hthird
  rw [if_pos (Nat.le_refl 1), hbits] at hlast
  rw [decodeFrom_cons, feed, hfirst, decodeFrom_cons, hsecond, decodeFrom_cons, hthird,
    decodeFrom_cons, hlast]
  rfl

/-- **The bytes of a character are read as that character**, whatever follows. -/
theorem decodeFrom_utf8EncodeChar (c : Char) (rest : List UInt8) :
    decodeFrom .ready (String.utf8EncodeChar c ++ rest) = c :: decodeFrom .ready rest := by
  have hvalid : c.val.toNat.isValidChar := c.valid
  have hchar : Char.ofNat c.val.toNat = c := Char.ofNat_toNat c
  rw [Nat.isValidChar] at hvalid
  unfold String.utf8EncodeChar
  generalize c.val.toNat = v at hvalid hchar
  subst hchar
  -- One case for each number of bytes.
  simp only
  split
  · rw [List.singleton_append, decodeFrom_cons, feed, first_single (by omega)]
    rfl
  · split
    · exact decodeFrom_double (by omega) (by omega) rest
    · split
      · exact decodeFrom_triple (by omega) (by omega) (by omega) rest
      · exact decodeFrom_quadruple (by omega) (by omega) rest

/-- No byte of a character is zero but that of the zero character. -/
theorem zero_not_mem_utf8EncodeChar {c : Char} (hc : c.toNat ≠ 0) :
    0 ∉ String.utf8EncodeChar c := by
  have hnat : ∀ k, 0 < k → k < 0x100 → (0 : UInt8) ≠ UInt8.ofNat k := by
    intro k hk hk' heq
    have hzero := (byte_eq_iff hk').mp heq.symm
    exact absurd hzero (Nat.ne_of_gt hk)
  have hpos : c.val.toNat ≠ 0 := hc
  unfold String.utf8EncodeChar
  generalize c.val.toNat = v at hpos
  simp only
  split
  · rw [List.mem_singleton]
    exact hnat _ (by omega) (by omega)
  · split
    · simp only [List.mem_cons, not_or]
      exact ⟨hnat _ (by omega) (by omega), hnat _ (by omega) (by omega), List.not_mem_nil⟩
    · split
      · simp only [List.mem_cons, not_or]
        exact ⟨hnat _ (by omega) (by omega), hnat _ (by omega) (by omega),
          hnat _ (by omega) (by omega), List.not_mem_nil⟩
      · simp only [List.mem_cons, not_or]
        exact ⟨hnat _ (by omega) (by omega), hnat _ (by omega) (by omega),
          hnat _ (by omega) (by omega), hnat _ (by omega) (by omega), List.not_mem_nil⟩

/-! ## Texts -/

/-- **What was written is read back.** -/
theorem decode_encode (t : Text) : decode (encode t) = t.toChars := by
  rw [decode, encode]
  induction t.toChars with
  | nil => rfl
  | cons c cs ih => rw [List.flatMap_cons, decodeFrom_utf8EncodeChar, ih]

/-- A repaired text is written as the text is. -/
theorem encode_repair (t : Text) : encode t.repair = encode t := by
  rw [encode, Text.toChars_repair, encode]

/-- Only a zero unit is written as a zero byte. -/
theorem zero_not_mem_encode {t : Text} (ht : 0 ∉ t) : 0 ∉ encode t := by
  rw [encode, List.mem_flatMap]
  rintro ⟨c, hc, hzero⟩
  by_cases hnul : c.toNat = 0
  · refine ht (Text.zero_mem_of_mem_repair ?_)
    rw [← Text.ofChars_toChars, Text.ofChars, List.mem_flatMap]
    refine ⟨c, hc, ?_⟩
    rw [Text.unitsOf, hnul]
    decide
  · exact zero_not_mem_utf8EncodeChar hnul hzero

/-- The units of a character start with the mark only if the character is the mark. -/
theorem dropMark_unitsOf {c : Char} (hc : c ≠ byteOrderMark) (t : Text) :
    (Text.unitsOf c ++ t).dropMark = Text.unitsOf c ++ t := by
  have hvalid : c.toNat.isValidChar := c.valid
  rw [Nat.isValidChar] at hvalid
  rw [Text.unitsOf]
  split
  · next hsmall =>
    have hne : ¬ c.toNat.toUInt16 = Text.mark := by
      intro heq
      have hnat := congrArg UInt16.toNat heq
      rw [Text.toNat_toUInt16 hsmall] at hnat
      exact hc (Char.toNat_inj.mp hnat)
    rw [List.singleton_append, Text.dropMark, if_neg hne]
  · have hne : ¬ (0xD800 + (c.toNat - 0x10000) / 0x400).toUInt16 = Text.mark := by
      intro heq
      have hnat : (0xD800 + (c.toNat - 0x10000) / 0x400).toUInt16.toNat = 0xFEFF :=
        congrArg UInt16.toNat heq
      rw [Text.toNat_toUInt16 (by omega)] at hnat
      omega
    rw [List.cons_append, Text.dropMark, if_neg hne]

/-- The mark goes off units as it goes off characters. -/
theorem ofChars_dropByteOrderMark (cs : List Char) :
    Text.ofChars (dropByteOrderMark cs) = (Text.ofChars cs).dropMark := by
  cases cs with
  | nil => rfl
  | cons c cs =>
    rw [dropByteOrderMark, Text.ofChars_cons]
    by_cases hc : c = byteOrderMark
    · rw [if_pos hc, hc]
      rfl
    · rw [if_neg hc, Text.ofChars_cons, dropMark_unitsOf hc]

/-- **A text that was written is read back** with its lone surrogates replaced, and without one byte
order mark in front. -/
theorem read_encode (t : Text) : read (encode t) = t.repair.dropMark := by
  rw [read, decode_encode, ofChars_dropByteOrderMark, Text.ofChars_toChars]

end Turnstile.Utf8
