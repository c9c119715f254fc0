import Turnstile.Text

/-! # Texts and their characters

Units and characters stand for each other except where a surrogate stands alone.

* **`Text.repair`** puts U+FFFD in the place of every lone surrogate; **`ofChars_toChars`** says
  that this is what is left of a text after a way through its characters.
* **`toChars_ofChars`** is the way back: no character is changed by a way through its units.
* **`Text.dropMark`** takes one byte order mark off the front. -/

namespace Turnstile.Text

/-- **A text with each lone surrogate replaced** by U+FFFD. -/
def repair : Text → Text
  | [] => []
  | [u] => if isSurrogate u then [0xFFFD] else [u]
  | u :: v :: rest =>
    if isHighSurrogate u && isLowSurrogate v then u :: v :: repair rest
    else if isSurrogate u then 0xFFFD :: repair (v :: rest)
    else u :: repair (v :: rest)

/-- The byte order mark as a unit. -/
def mark : UInt16 := 0xFEFF

/-- A text without one byte order mark in front. -/
def dropMark : Text → Text
  | [] => []
  | u :: rest => if u = mark then rest else u :: rest

variable {u v : UInt16} {n : Nat}

/-! ## Surrogates by number -/

theorem isSurrogate_iff : isSurrogate u = true ↔ 0xD800 ≤ u.toNat ∧ u.toNat ≤ 0xDFFF := by
  simp [isSurrogate, UInt16.le_iff_toNat_le]

theorem isHighSurrogate_iff : isHighSurrogate u = true ↔ 0xD800 ≤ u.toNat ∧ u.toNat ≤ 0xDBFF := by
  simp [isHighSurrogate, UInt16.le_iff_toNat_le]

theorem isLowSurrogate_iff : isLowSurrogate u = true ↔ 0xDC00 ≤ u.toNat ∧ u.toNat ≤ 0xDFFF := by
  simp [isLowSurrogate, UInt16.le_iff_toNat_le]

/-- A leading surrogate is a surrogate. -/
theorem isSurrogate_of_isHighSurrogate (h : isHighSurrogate u = true) : isSurrogate u = true := by
  rw [isHighSurrogate_iff] at h
  rw [isSurrogate_iff]
  omega

/-- So is a trailing one. -/
theorem isSurrogate_of_isLowSurrogate (h : isLowSurrogate u = true) : isSurrogate u = true := by
  rw [isLowSurrogate_iff] at h
  rw [isSurrogate_iff]
  omega

/-! ## Units and characters by number -/

theorem toUInt16_toNat (u : UInt16) : u.toNat.toUInt16 = u := UInt16.ofNat_toNat

theorem toNat_toUInt16 (h : n < 0x10000) : n.toUInt16.toNat = n := by
  rw [Nat.toUInt16, UInt16.toNat_ofNat']
  exact Nat.mod_eq_of_lt h

theorem toNat_charOfNat (h : n.isValidChar) : (Char.ofNat n).toNat = n := by
  rw [Char.ofNat, dif_pos h]
  rfl

theorem isValidChar_of_not_isSurrogate (h : ¬ isSurrogate u = true) : u.toNat.isValidChar := by
  have hlt : u.toNat < 65536 := u.toNat_lt
  rw [isSurrogate_iff] at h
  rw [Nat.isValidChar]
  omega

/-- The character of a unit that is no surrogate has that unit alone. -/
theorem unitsOf_unit (h : ¬ isSurrogate u = true) : unitsOf (Char.ofNat u.toNat) = [u] := by
  have hlt : u.toNat < 0x10000 := u.toNat_lt
  rw [unitsOf, toNat_charOfNat (isValidChar_of_not_isSurrogate h), if_pos hlt,
    toUInt16_toNat]

/-- The character of a surrogate pair has that pair of units. -/
theorem unitsOf_pair (hu : isHighSurrogate u = true) (hv : isLowSurrogate v = true) :
    unitsOf (Char.ofNat (0x10000 + (u.toNat - 0xD800) * 0x400 + (v.toNat - 0xDC00))) = [u, v] := by
  rw [isHighSurrogate_iff] at hu
  rw [isLowSurrogate_iff] at hv
  have hvalid : (0x10000 + (u.toNat - 0xD800) * 0x400 + (v.toNat - 0xDC00)).isValidChar := by
    rw [Nat.isValidChar]
    omega
  have hbig : ¬ 0x10000 + (u.toNat - 0xD800) * 0x400 + (v.toNat - 0xDC00) < 0x10000 := by omega
  have hhigh : 0xD800
      + (0x10000 + (u.toNat - 0xD800) * 0x400 + (v.toNat - 0xDC00) - 0x10000) / 0x400 = u.toNat := by
    omega
  have hlow : 0xDC00
      + (0x10000 + (u.toNat - 0xD800) * 0x400 + (v.toNat - 0xDC00) - 0x10000) % 0x400 = v.toNat := by
    omega
  rw [unitsOf, toNat_charOfNat hvalid, if_neg hbig, hhigh, hlow, toUInt16_toNat, toUInt16_toNat]

theorem ofChars_cons (c : Char) (cs : List Char) : ofChars (c :: cs) = unitsOf c ++ ofChars cs :=
  List.flatMap_cons

/-- **A way through its characters repairs a text.** -/
theorem ofChars_toChars (t : Text) : ofChars (toChars t) = repair t := by
  induction t using toChars.induct with
  | case1 => rfl
  | case2 u hu => simp only [toChars, repair, if_pos hu]; rfl
  | case3 u hu =>
    simp only [toChars, repair, if_neg hu, ofChars_cons, unitsOf_unit hu]
    rfl
  | case4 u v rest hpair ih =>
    obtain ⟨hu, hv⟩ := Bool.and_eq_true_iff.mp hpair
    simp only [toChars, repair, if_pos hpair, ofChars_cons, unitsOf_pair hu hv, ih,
      List.cons_append, List.nil_append]
  | case5 u v rest hpair hu ih =>
    simp only [toChars, repair, if_neg hpair, if_pos hu, ofChars_cons, ih]
    rfl
  | case6 u v rest hpair hu ih =>
    simp only [toChars, repair, if_neg hpair, if_neg hu, ofChars_cons, unitsOf_unit hu, ih,
      List.cons_append, List.nil_append]

/-! ## The way back -/

/-- A unit that is no surrogate is read by itself. -/
theorem toChars_cons (h : ¬ isSurrogate u = true) (t : Text) :
    toChars (u :: t) = Char.ofNat u.toNat :: toChars t := by
  cases t with
  | nil => simp only [toChars, if_neg h]
  | cons v rest =>
    have hpair : ¬ (isHighSurrogate u && isLowSurrogate v) = true := fun hp =>
      h (isSurrogate_of_isHighSurrogate (Bool.and_eq_true_iff.mp hp).1)
    rw [toChars, if_neg hpair, if_neg h]

/-- The units of a character are read as that character, whatever follows. -/
theorem toChars_unitsOf (c : Char) (t : Text) : toChars (unitsOf c ++ t) = c :: toChars t := by
  have hvalid : c.toNat.isValidChar := c.valid
  rw [Nat.isValidChar] at hvalid
  rw [unitsOf]
  split
  · next hsmall =>
    have hnat := toNat_toUInt16 hsmall
    have hnot : ¬ isSurrogate c.toNat.toUInt16 = true := by
      rw [isSurrogate_iff, hnat]
      omega
    rw [List.singleton_append, toChars_cons hnot, hnat, Char.ofNat_toNat]
  · next hbig =>
    have hhigh : (0xD800 + (c.toNat - 0x10000) / 0x400).toUInt16.toNat
        = 0xD800 + (c.toNat - 0x10000) / 0x400 := toNat_toUInt16 (by omega)
    have hlow : (0xDC00 + (c.toNat - 0x10000) % 0x400).toUInt16.toNat
        = 0xDC00 + (c.toNat - 0x10000) % 0x400 := toNat_toUInt16 (by omega)
    have hpair : (isHighSurrogate (0xD800 + (c.toNat - 0x10000) / 0x400).toUInt16
        && isLowSurrogate (0xDC00 + (c.toNat - 0x10000) % 0x400).toUInt16) = true := by
      rw [Bool.and_eq_true_iff, isHighSurrogate_iff, isLowSurrogate_iff, hhigh, hlow]
      omega
    have hsum : 0x10000 + (0xD800 + (c.toNat - 0x10000) / 0x400 - 0xD800) * 0x400
        + (0xDC00 + (c.toNat - 0x10000) % 0x400 - 0xDC00) = c.toNat := by omega
    show toChars (_ :: _ :: t) = _
    rw [toChars, if_pos hpair, hhigh, hlow, hsum, Char.ofNat_toNat]

/-- **A way through its units leaves a list of characters as it is.** -/
theorem toChars_ofChars (cs : List Char) : toChars (ofChars cs) = cs := by
  induction cs with
  | nil => rfl
  | cons c cs ih => rw [ofChars_cons, toChars_unitsOf, ih]

/-- Repairing changes no character. -/
theorem toChars_repair (t : Text) : toChars (repair t) = toChars t := by
  rw [← ofChars_toChars, toChars_ofChars]

/-! ## What repairing leaves alone -/

/-- **A well-formed text needs no repair.** -/
theorem repair_of_isWellFormed {t : Text} (h : t.isWellFormed = true) : repair t = t := by
  induction t using repair.induct with
  | case1 => rfl
  | case2 u hu => simp [isWellFormed, hu] at h
  | case3 u hu => rw [repair, if_neg hu]
  | case4 u v rest hpair ih =>
    rw [isWellFormed, if_pos hpair] at h
    rw [repair, if_pos hpair, ih h]
  | case5 u v rest hpair hu ih => simp [isWellFormed, hpair, hu] at h
  | case6 u v rest hpair hu ih =>
    rw [isWellFormed, if_neg hpair, Bool.and_eq_true_iff] at h
    rw [repair, if_neg hpair, if_neg hu, ih h.2]

/-- A text loses a mark in front, and only that. -/
theorem dropMark_eq_self_iff (t : Text) : t.dropMark = t ↔ t.head? ≠ some mark := by
  cases t with
  | nil => simp [dropMark]
  | cons u rest =>
    rw [dropMark, List.head?_cons, ne_eq, Option.some.injEq]
    by_cases hu : u = mark
    · rw [if_pos hu]
      refine ⟨fun heq => ?_, fun hne => absurd hu hne⟩
      have hlen := congrArg List.length heq
      rw [List.length_cons] at hlen
      omega
    · rw [if_neg hu]
      exact ⟨fun _ => hu, fun _ => rfl⟩

/-- Repairing brings no zero unit in. -/
theorem zero_mem_of_mem_repair {t : Text} (h : 0 ∈ repair t) : 0 ∈ t := by
  induction t using repair.induct with
  | case1 => exact h
  | case2 u hu =>
    rw [repair, if_pos hu, List.mem_singleton] at h
    exact absurd h (by decide)
  | case3 u hu => rwa [repair, if_neg hu] at h
  | case4 u v rest hpair ih =>
    rw [repair, if_pos hpair, List.mem_cons, List.mem_cons] at h
    rw [List.mem_cons, List.mem_cons]
    exact h.imp_right (Or.imp_right ih)
  | case5 u v rest hpair hu ih =>
    rw [repair, if_neg hpair, if_pos hu, List.mem_cons] at h
    rcases h with h | h
    · exact absurd h (by decide)
    · exact List.mem_cons_of_mem u (ih h)
  | case6 u v rest hpair hu ih =>
    rw [repair, if_neg hpair, if_neg hu, List.mem_cons] at h
    rw [List.mem_cons]
    exact h.imp_right ih

end Turnstile.Text
