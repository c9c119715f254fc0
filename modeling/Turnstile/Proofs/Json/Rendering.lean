import Turnstile.Proofs.Json.Grammar
import Turnstile.Proofs.Number.Integral
import Turnstile.Proofs.Text.Repair

/-! # Trees in text

The compact text of a tree is a JSON text, and stands for the tree.

* **`Json.isString_quote`** for texts of any units: what has to be escaped is, and surrogates that stand
  alone are.
* **`Json.isNumeral_ofInt`** for the numbers that are integers.
* **`Json.derives_render`** puts the parts of a tree together; `Json.IsPlain` asks that its numbers are
  integers. -/

namespace Turnstile.Json

open Text

variable {t s : Text} {u v : UInt16}

/-! ## Units between quotes -/

theorem digitValue?_hex {d : Nat} (h : d < 16) : digitValue? 16 (digit d) = some d := by
  have hall : ∀ d < 16, digitValue? 16 (digit d) = some d := by decide
  exact hall d h

/-- **Four hexadecimal digits** are the number of their unit. -/
theorem nat?_hex4 (u : UInt16) : nat? 16 (hex4 u) = some u.toNat := by
  have hu : u.toNat < 65536 := u.toNat_lt
  have hfirst : u.toNat / 0x1000 < 16 := by omega
  have hlast : ∀ n : Nat, n % 16 < 16 := fun n => Nat.mod_lt n (by decide)
  simp only [nat?, hex4, List.isEmpty_cons, Bool.false_eq_true, if_false, natFrom?,
    digitValue?_hex hfirst, digitValue?_hex (hlast _), Option.some.injEq]
  omega

/-- The escape of a unit is a letter that is known for it, or its digits. -/
theorem escape?_eq_some {escaped : Text} (h : escape? u = some escaped) :
    (∃ letter, (letter, u) ∈ escapes ∧ escaped = [unit '\\', letter])
      ∨ escaped = unit '\\' :: unit 'u' :: hex4 u := by
  simp only [escape?] at h
  repeat'
    split at h
  all_goals first
    | (next hu => subst hu; exact Or.inl ⟨_, by decide, (Option.some.inj h).symm⟩)
    | exact Or.inr (Option.some.inj h).symm
    | exact absurd h nofun

/-- A unit without an escape may be written as it is. -/
theorem escape?_eq_none (h : escape? u = none) :
    0x20 ≤ u ∧ u ≠ unit '"' ∧ u ≠ unit '\\' := by
  simp only [escape?] at h
  repeat'
    split at h
  all_goals cases h
  next hquote hbackslash _ _ _ _ _ hcontrol =>
    exact ⟨UInt16.not_lt.mp hcontrol, hquote, hbackslash⟩

/-- Half of a pair needs no escape. -/
theorem visible_of_isSurrogate (h : isSurrogate u = true) :
    0x20 ≤ u ∧ u ≠ unit '"' ∧ u ≠ unit '\\' := by
  rw [isSurrogate_iff] at h
  refine ⟨UInt16.le_iff_toNat_le.mpr (by simp; omega), ?_, ?_⟩
  · rintro rfl
    exact absurd h (by decide)
  · rintro rfl
    exact absurd h (by decide)

/-- **A unit that is not half of a pair is written for itself.** -/
theorem Spells.quoteUnit (h : Spells t s) (u : UInt16) :
    Spells (Json.quoteUnit u ++ t) (u :: s) := by
  have hhex : Spells (unit '\\' :: unit 'u' :: (hex4 u ++ t)) (u :: s) := by
    have hspelled := h.hex (rfl : (hex4 u).length = 4) (nat?_hex4 u)
    rwa [toUInt16_toNat] at hspelled
  rw [Json.quoteUnit]
  by_cases hsurrogate : isSurrogate u = true
  · rw [if_pos hsurrogate]
    exact hhex
  · rw [if_neg hsurrogate]
    cases hescape : escape? u with
    | none =>
      obtain ⟨hvisible, hquote, hbackslash⟩ := escape?_eq_none hescape
      exact h.plain hvisible hquote hbackslash
    | some escaped =>
      rcases escape?_eq_some hescape with ⟨letter, hletter, rfl⟩ | rfl
      · exact h.escaped hletter
      · exact hhex

/-- **Any units are written for themselves between quotes.** -/
theorem spells_quoteUnits (t : Text) : Spells (quoteUnits t) t := by
  fun_induction quoteUnits t with
  | case1 => exact .nil
  | case2 u =>
    have hunit := Spells.nil.quoteUnit u
    rwa [List.append_nil] at hunit
  | case3 u v rest hpair ih =>
    -- The two halves of a pair are written as they are.
    rw [Bool.and_eq_true] at hpair
    obtain ⟨hvisible, hquote, hbackslash⟩ :=
      visible_of_isSurrogate (isSurrogate_of_isHighSurrogate hpair.1)
    obtain ⟨hvisible', hquote', hbackslash'⟩ :=
      visible_of_isSurrogate (isSurrogate_of_isLowSurrogate hpair.2)
    exact (ih.plain hvisible' hquote' hbackslash').plain hvisible hquote hbackslash
  | case4 u v rest _ ih => exact ih.quoteUnit u

/-- A unit that is no surrogate does not stand alone. -/
theorem isWellFormed_cons (h : isSurrogate u = false) (t : Text) :
    isWellFormed (u :: t) = isWellFormed t := by
  cases t with
  | nil => rw [isWellFormed, isWellFormed, h, Bool.not_false]
  | cons v t =>
    have hhigh : isHighSurrogate u = false := by
      by_contra hhigh
      rw [Bool.not_eq_false] at hhigh
      exact Bool.noConfusion (h.symm.trans (isSurrogate_of_isHighSurrogate hhigh))
    simp [isWellFormed, hhigh, h]

theorem isWellFormed_append (h : ∀ u ∈ s, isSurrogate u = false) (t : Text) :
    isWellFormed (s ++ t) = isWellFormed t := by
  induction s with
  | nil => rfl
  | cons u s ih =>
    rw [List.cons_append, isWellFormed_cons (h u List.mem_cons_self),
      ih fun u hu => h u (List.mem_cons_of_mem _ hu)]

/-- No surrogate is written for a unit that is not half of a pair. -/
theorem isSurrogate_of_mem_quoteUnit (h : u ∈ quoteUnit v) : isSurrogate u = false := by
  have hhex : ∀ u ∈ unit '\\' :: unit 'u' :: hex4 v, isSurrogate u = false := by
    have hdigit : ∀ d < 16, isSurrogate (digit d) = false := by decide
    have hv : v.toNat < 65536 := v.toNat_lt
    have hfirst : v.toNat / 0x1000 < 16 := by omega
    have hlast : ∀ n : Nat, n % 16 < 16 := fun n => Nat.mod_lt n (by decide)
    simp only [hex4, List.mem_cons, List.not_mem_nil, or_false, forall_eq_or_imp, forall_eq]
    exact ⟨by decide, by decide, hdigit _ hfirst, hdigit _ (hlast _), hdigit _ (hlast _),
      hdigit _ (hlast _)⟩
  have hletter : escapes.all (fun e => [unit '\\', e.1].all fun u => !isSurrogate u) = true := by
    decide
  rw [quoteUnit] at h
  by_cases hsurrogate : isSurrogate v = true
  · rw [if_pos hsurrogate] at h
    exact hhex u h
  · rw [if_neg hsurrogate] at h
    cases hescape : escape? v with
    | none =>
      rw [hescape, Option.getD_none, List.mem_singleton] at h
      rw [h]
      exact Bool.eq_false_iff.mpr hsurrogate
    | some escaped =>
      rw [hescape, Option.getD_some] at h
      rcases escape?_eq_some hescape with ⟨letter, hknown, rfl⟩ | rfl
      · have hunit := List.all_eq_true.mp (List.all_eq_true.mp hletter _ hknown) u h
        rwa [Bool.not_eq_true'] at hunit
      · exact hhex u h

/-- **No surrogate stands alone between quotes.** -/
theorem isWellFormed_quoteUnits (t : Text) : (quoteUnits t).isWellFormed = true := by
  fun_induction quoteUnits t with
  | case1 => rfl
  | case2 u =>
    rw [← List.append_nil (quoteUnit u),
      isWellFormed_append (fun _ hv => isSurrogate_of_mem_quoteUnit hv)]
    rfl
  | case3 u v rest hpair ih => rw [isWellFormed, if_pos hpair, ih]
  | case4 u v rest _ ih =>
    rw [isWellFormed_append (fun _ hv => isSurrogate_of_mem_quoteUnit hv), ih]

/-- **A text between quotes is a string that stands for it**, whatever its units are. -/
theorem isString_quote (t : Text) : IsString (quote t) t :=
  ⟨quoteUnits t, spells_quoteUnits t, isWellFormed_quoteUnits t, rfl⟩

/-! ## Integers -/

/-- The digits of a natural number start with a zero only when it is zero. -/
theorem isWhole_ofNat (n : Nat) : IsWhole (Text.ofNat n) := by
  refine ⟨⟨ofNat_ne_nil n, fun _ hu => isDigit_of_mem_ofNat n hu⟩, ?_⟩
  induction n using digits_induction with
  | one d hd =>
    have hall : ∀ d < 10, [digit d].head? = some (unit '0') → [digit d] = [unit '0'] := by decide
    rw [ofNat_of_lt hd]
    exact hall d hd
  | more n d hn hd ih =>
    -- The first digit is that of the digits in front, and they are not just a zero.
    intro hzero
    rw [ofNat_digit hn hd, List.head?_append_of_ne_nil _ (ofNat_ne_nil n)] at hzero
    have hread := nat?_ofNat n
    rw [ih hzero] at hread
    exact absurd (Option.some.inj hread) (Nat.ne_of_lt hn)

/-- **An integer is a numeral.** -/
theorem isNumeral_ofInt (i : Int) : IsNumeral (Text.ofInt i) := by
  rw [Text.ofInt]
  by_cases hneg : i < 0
  · rw [if_pos hneg]
    exact ⟨[unit '-'], ofNat i.natAbs, [], [], Or.inr rfl, isWhole_ofNat _, Or.inl rfl, Or.inl rfl,
      by simp⟩
  · rw [if_neg hneg]
    exact ⟨[], ofNat i.natAbs, [], [], Or.inl rfl, isWhole_ofNat _, Or.inl rfl, Or.inl rfl, by simp⟩

theorem derives_number {x : Number} (h : x.IsIntegral) :
    Derives .value x.toText (.number x) := by
  obtain ⟨i, hi, hx⟩ := Number.isIntegral_iff.mp h
  have hnumber := Derives.number (isNumeral_ofInt i)
  rw [Numeral.number_ofInt] at hnumber
  rw [hx, Number.toText_ofInt hi]
  exact hnumber

/-! ## Trees -/

/-- **A tree of plain data**: its numbers are integers. -/
inductive IsPlain : Json → Prop where
  | null : IsPlain .null
  | boolean (b : Bool) : IsPlain (.boolean b)
  | number {n : Number} (integral : n.IsIntegral) : IsPlain (.number n)
  | text (t : Text) : IsPlain (.text t)
  | array {es : List Json} (elements : ∀ e ∈ es, IsPlain e) : IsPlain (.array es)
  | object {ms : List (Text × Json)} (members : ∀ m ∈ ms, IsPlain m.2) : IsPlain (.object ms)

/-- A value without blanks is an element. -/
theorem Derives.asElement {t : Text} {j : Json} (h : Derives .value t j) : Derives .element t j := by
  have helement := Derives.element isSpace_nil isSpace_nil h
  rwa [List.nil_append, List.append_nil] at helement

theorem renderAll_eq (es : List Json) : render.renderAll es = es.map render := by
  induction es with
  | nil => rfl
  | cons e es ih => rw [render.renderAll, ih, List.map_cons]

/-- The text of a member. -/
def renderMember (m : Text × Json) : Text := quote m.1 ++ unit ':' :: render m.2

theorem renderMembers_eq (ms : List (Text × Json)) :
    render.renderMembers ms = ms.map renderMember := by
  induction ms with
  | nil => rfl
  | cons m ms ih =>
    rw [render.renderMembers, ih, List.map_cons, List.append_assoc]
    rfl

/-- Elements with commas between them, -/
theorem derives_elements (e : Json) (es : List Json)
    (h : ∀ e' ∈ e :: es, Derives .value e'.render e') :
    Derives .elements (join "," ((e :: es).map render)) (.array (e :: es)) := by
  have hfirst : Derives .element e.render e := (h e List.mem_cons_self).asElement
  induction es generalizing e with
  | nil =>
    rw [List.map_singleton, join, List.intercalate_singleton]
    exact .lastElement hfirst
  | cons e' es ih =>
    have hrest := ih e' (fun _ hmem => h _ (List.mem_cons_of_mem _ hmem))
      (h e' (List.mem_cons_of_mem _ List.mem_cons_self)).asElement
    rw [List.map_cons, List.map_cons, join_cons_cons, List.append_assoc, ← List.map_cons]
    exact .moreElements hfirst hrest

/-- and members with commas between them. -/
theorem derives_members (m : Text × Json) (ms : List (Text × Json))
    (h : ∀ m' ∈ m :: ms, Derives .value m'.2.render m'.2) :
    Derives .members (join "," ((m :: ms).map renderMember)) (.object (m :: ms)) := by
  have hmember : ∀ m' ∈ m :: ms, Derives .member (renderMember m') (.object [m']) := by
    intro m' hm'
    have hvalue := (h m' hm').asElement
    exact .member isSpace_nil isSpace_nil (isString_quote m'.1) hvalue
  clear h
  induction ms generalizing m with
  | nil =>
    rw [List.map_singleton, join, List.intercalate_singleton]
    exact .lastMember (hmember m List.mem_cons_self)
  | cons m' ms ih =>
    have hrest := ih m' fun _ hmem => hmember _ (List.mem_cons_of_mem _ hmem)
    rw [List.map_cons, List.map_cons, join_cons_cons, List.append_assoc, ← List.map_cons]
    exact .moreMembers (hmember m List.mem_cons_self) hrest

/-- **The text of a tree of plain data is a JSON text that stands for it.** -/
theorem derives_render {j : Json} (h : j.IsPlain) : Derives .value j.render j := by
  induction h with
  | null => exact .word (mem_words_iff.mpr (Or.inl ⟨rfl, rfl⟩))
  | boolean b =>
    cases b with
    | true => exact .word (mem_words_iff.mpr (Or.inr (Or.inl ⟨rfl, rfl⟩)))
    | false => exact .word (mem_words_iff.mpr (Or.inr (Or.inr ⟨rfl, rfl⟩)))
  | number integral => exact derives_number integral
  | text t => exact .string (isString_quote t)
  | @array es elements ih =>
    rw [render, renderAll_eq]
    cases es with
    | nil => exact .emptyArray isSpace_nil
    | cons e es => exact .array (derives_elements e es ih)
  | @object ms members ih =>
    rw [render, renderMembers_eq]
    cases ms with
    | nil => exact .emptyObject isSpace_nil
    | cons m ms => exact .object (derives_members m ms ih)

end Turnstile.Json
