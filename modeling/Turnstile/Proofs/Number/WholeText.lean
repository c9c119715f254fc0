import Turnstile.Number.Shortest
import Turnstile.Proofs.Number.Whole
import Turnstile.Proofs.Text.Decimal

/-! # Whole numbers in text

A whole number up to `2 ^ 53` is written with its decimal digits (`Number.toText_ofNat`).

The shortest decimal is looked for on one grid of powers of ten after the other, the coarsest first.
On a grid that a whole number is on, the point below it is the number itself and reads back
(`onGrid?_whole`); on a coarser one neither of the two points does. The grid of the units always ends
the search, so what is found is the number without some of the zeros at its end, and those are written
again (`Decimal.toText_natural`). -/

namespace Turnstile

/-! ## Decimals without a fraction -/

namespace Decimal

variable {digits exponent : Nat}

/-- Stripping the zeros at the end does not change the number that a decimal is. -/
theorem stripped_natural (hdigits : 0 < digits) (exponent : Nat) :
    ∃ digits' exponent' : Nat, stripped ⟨digits, exponent⟩ = ⟨digits', exponent'⟩ ∧ 0 < digits'
      ∧ digits' * 10 ^ exponent' = digits * 10 ^ exponent := by
  -- The induction is on the digits: a zero at their end is taken off before the next one is.
  induction digits using Nat.strong_induction_on generalizing exponent with
  | _ digits ih =>
    rw [stripped]
    split
    · next hzero =>
      have hzero : digits % 10 = 0 := hzero.2
      have hten : digits / 10 * 10 = digits := Nat.div_mul_cancel (Nat.dvd_of_mod_eq_zero hzero)
      obtain ⟨digits', exponent', hstripped, hpos, hvalue⟩ :=
        ih (digits / 10) (by omega) (by omega) (exponent + 1)
      refine ⟨digits', exponent', hstripped, hpos, ?_⟩
      rw [hvalue, Nat.pow_succ', ← Nat.mul_assoc, hten]
    · exact ⟨digits, exponent, rfl, hdigits, rfl⟩

/-- **A decimal without a fraction** is written with all its digits, as long as there are no more than
twenty-one. -/
theorem toText_natural (hdigits : 0 < digits) (h : digits * 10 ^ exponent < 10 ^ 21) :
    toText ⟨digits, exponent⟩ = Text.ofNat (digits * 10 ^ exponent) := by
  have hlength : (Text.ofNat digits).length + exponent ≤ 21 := by
    have hall := Text.length_ofNat_le (by decide) h
    rwa [Text.ofNat_mul_pow hdigits, List.length_append, List.length_replicate] at hall
  have hpositional : (decide ((0 : Int) ≤ exponent)
      && decide (((Text.ofNat digits).length : Int) + exponent ≤ positionalEnd)) = true := by
    rw [Bool.and_eq_true, decide_eq_true_iff, decide_eq_true_iff, positionalEnd]
    omega
  rw [Text.ofNat_mul_pow hdigits, toText, if_pos hpositional, Int.toNat_natCast]

end Decimal

namespace Number

variable {n e l : Nat}

/-! ## The grids -/

/-- A magnitude over a power of ten that is one or more. -/
theorem scaled_natural (quanta e : Nat) : scaled quanta e = (quanta, one * 10 ^ e) := by
  have hnone : (-(e : Int)).toNat = 0 := by omega
  rw [scaled, hnone, Int.toNat_natCast, Nat.pow_eq, Nat.pow_eq, Nat.pow_zero, Nat.mul_one]

/-- **A decimal without a fraction that is held exactly** reads back as its own magnitude only. -/
theorem readsBack_natural {quanta digits : Nat} (he : e ≤ 400)
    (h : IsRepresentable (digits * 10 ^ e * one)) :
    readsBack quanta ⟨digits, e⟩ = (digits * 10 ^ e * one == quanta) := by
  have hexact : ofDecimal false digits e = .finite false (digits * 10 ^ e * one) h := by
    by_cases hzero : digits = 0
    · subst hzero
      rw [ofDecimal, if_pos rfl, zero_eq, ofNat_eq (Nat.zero_le _)]
      simp only [Nat.zero_mul]
    · have hlarge : ¬ (400 : Int) < e := by omega
      have hsmall : ¬ (e : Int) + ((digits.log2 : Int) + 1) < -400 := by omega
      rw [ofDecimal, if_neg hzero, if_neg hlarge, if_neg hsmall, if_pos (by omega),
        Int.toNat_natCast, Nat.pow_eq, ofRatio, nearest_of_isRepresentable h,
        ofQuanta_of_isRepresentable]
  rw [readsBack, hexact]

/-- The point above a whole number has 53 bits and factors of two. -/
theorem isRepresentable_above (h : n ≤ 2 ^ 53) (hpos : 0 < e) (he : e ≤ 16) :
    IsRepresentable ((n / 10 ^ e + 1) * 10 ^ e * one) := by
  have htwo : 2 ≤ 2 ^ e := Nat.le_self_pow (by omega) 2
  have hfive : 5 ^ e ≤ 2 ^ 52 :=
    (Nat.pow_le_pow_right (by decide) he).trans (by decide : 5 ^ 16 ≤ 2 ^ 52)
  have hten : (10 : Nat) ^ e = 5 ^ e * 2 ^ e := by rw [← Nat.mul_pow]
  -- Of the digits that stay, the fives make up half of the number at most.
  have hbelow : n / 10 ^ e * 5 ^ e ≤ 2 ^ 52 := by
    have hdigits : n / 10 ^ e * 5 ^ e * 2 ^ e ≤ 2 ^ 53 := by
      rw [Nat.mul_assoc, ← hten]
      exact (Nat.div_mul_le_self n _).trans h
    have hhalf : n / 10 ^ e * 5 ^ e * 2 ≤ n / 10 ^ e * 5 ^ e * 2 ^ e := Nat.mul_le_mul_left _ htwo
    omega
  have hbits : (n / 10 ^ e + 1) * 5 ^ e ≤ 2 ^ 53 := by
    rw [Nat.add_mul, Nat.one_mul]
    omega
  rw [hten, ← Nat.mul_assoc]
  rw [hten] at hbits
  exact isRepresentable_mul_two_pow hbits (by omega)

/-- A magnitude that is on a grid is its own point there: the point above may read back too, but it is
not as near. -/
theorem onGrid?_of_dvd {quanta n d : Nat} {exponent : Int} (hscaled : scaled quanta exponent = (n, d))
    (hd : 0 < d) (hdvd : d ∣ n) (hbelow : readsBack quanta ⟨n / d, exponent⟩ = true) :
    onGrid? quanta exponent = some ⟨n / d, exponent⟩ := by
  have hnear : 2 * (n % d) < d := by
    rw [Nat.mod_eq_zero_of_dvd hdvd]
    exact hd
  rw [onGrid?, hscaled]
  simp only [hbelow, decide_eq_true hnear, Bool.true_or, if_true]
  cases readsBack quanta ⟨n / d + 1, exponent⟩ <;> rfl

/-- Where neither of the two points reads back there is none. -/
theorem onGrid?_of_neither {quanta n d : Nat} {exponent : Int}
    (hscaled : scaled quanta exponent = (n, d))
    (hbelow : readsBack quanta ⟨n / d, exponent⟩ = false)
    (habove : readsBack quanta ⟨n / d + 1, exponent⟩ = false) : onGrid? quanta exponent = none := by
  rw [onGrid?, hscaled]
  simp only [hbelow, habove]

/-- **A whole number has a point on the grids that it is on**, and that point is the number; on other
grids it has none. -/
theorem onGrid?_whole (h : n ≤ 2 ^ 53) (he : e ≤ 16) :
    onGrid? (n * one) e = if 10 ^ e ∣ n then some ⟨n / 10 ^ e, e⟩ else none := by
  have hscaled : scaled (n * one) e = (one * n, one * 10 ^ e) := by
    rw [scaled_natural, Nat.mul_comm]
  have hquotient : one * n / (one * 10 ^ e) = n / 10 ^ e := Nat.mul_div_mul_left _ _ one_pos
  have hbelow : n / 10 ^ e * 10 ^ e ≤ 2 ^ 53 := (Nat.div_mul_le_self n _).trans h
  by_cases hon : 10 ^ e ∣ n
  · rw [if_pos hon, onGrid?_of_dvd hscaled (Nat.mul_pos one_pos (Nat.pow_pos (by decide)))
      (Nat.mul_dvd_mul_left one hon), hquotient]
    rw [hquotient, readsBack_natural (by omega) (isRepresentable_whole hbelow), beq_iff_eq,
      Nat.div_mul_cancel hon]
  · have hpos : 0 < e := by
      by_contra hnot
      obtain rfl : e = 0 := by omega
      exact hon (Nat.one_dvd n)
    have hother : ∀ digits, (digits * 10 ^ e * one == n * one) = false := by
      intro digits
      rw [beq_eq_false_iff_ne]
      intro heq
      exact hon (Dvd.intro_left digits (Nat.eq_of_mul_eq_mul_right one_pos heq))
    rw [if_neg hon, onGrid?_of_neither hscaled]
    · rw [hquotient, readsBack_natural (by omega) (isRepresentable_whole hbelow), hother]
    · rw [hquotient, readsBack_natural (by omega) (isRepresentable_above h hpos he), hother]

/-- **From a grid on down to that of the units** one is found that a whole number is on. -/
theorem findSome?_onGrid (h : n ≤ 2 ^ 53) {count : Nat} (hl : l ≤ 16)
    (hcount : l < count) :
    ∃ e : Nat, 10 ^ e ∣ n
      ∧ ((List.range count).map fun (i : Nat) => (l : Int) - (i : Int)).findSome? (onGrid? (n * one))
        = some ⟨n / 10 ^ e, e⟩ := by
  induction l generalizing count with
  | zero =>
    obtain ⟨count, rfl⟩ := Nat.exists_eq_add_of_lt hcount
    refine ⟨0, Nat.one_dvd n, ?_⟩
    have hunits := onGrid?_whole h (Nat.zero_le 16)
    rw [if_pos (by rw [Nat.pow_zero]; exact Nat.one_dvd n), Int.natCast_zero] at hunits
    rw [Nat.zero_add, List.range_succ_eq_map, List.map_cons, List.findSome?_cons, Int.natCast_zero,
      Int.sub_zero, hunits]
  | succ l ih =>
    obtain ⟨count, rfl⟩ : ∃ rest, count = rest + 1 := ⟨count - 1, by omega⟩
    have hbehind : ((fun (i : Nat) => ((l + 1 : Nat) : Int) - (i : Int)) ∘ Nat.succ)
        = fun (i : Nat) => (l : Int) - (i : Int) := by
      funext i
      simp only [Function.comp_apply, Nat.succ_eq_add_one]
      omega
    rw [List.range_succ_eq_map, List.map_cons, List.findSome?_cons, Int.natCast_zero, Int.sub_zero,
      onGrid?_whole h hl, List.map_map, hbehind]
    by_cases hon : 10 ^ (l + 1) ∣ n
    · exact ⟨l + 1, hon, by rw [if_pos hon]⟩
    · rw [if_neg hon]
      exact ih (by omega) (by omega)

/-! ## The first grid -/

/-- Whether a magnitude is below the next power of ten, which tells its leading place. -/
def IsBelowNext (quanta : Nat) (exponent : Int) : Prop :=
  (scaled quanta (exponent + 1)).1 < (scaled quanta (exponent + 1)).2

/-- The leading place is the first of three candidates, when the third one is large enough. -/
theorem leadingExponent_cases {quanta : Nat} {estimate : Int}
    (hestimate : ((quanta.log2 : Int) - 1074) * 30103 / 100000 - 1 = estimate)
    (hthird : IsBelowNext quanta (estimate + 2)) :
    ∃ e, leadingExponent quanta = e ∧ IsBelowNext quanta e
      ∧ (e = estimate ∨ e = estimate + 1 ∨ e = estimate + 2) := by
  simp only [IsBelowNext] at hthird ⊢
  rw [leadingExponent, hestimate]
  by_cases hfirst : (scaled quanta (estimate + 1)).1 < (scaled quanta (estimate + 1)).2
  · refine ⟨estimate, ?_, hfirst, Or.inl rfl⟩
    simp only [List.find?_cons, decide_eq_true hfirst, Option.getD_some]
  · by_cases hsecond : (scaled quanta (estimate + 1 + 1)).1 < (scaled quanta (estimate + 1 + 1)).2
    · refine ⟨estimate + 1, ?_, hsecond, Or.inr (Or.inl rfl)⟩
      simp only [List.find?_cons, decide_eq_false hfirst, decide_eq_true hsecond, Option.getD_some]
    · refine ⟨estimate + 2, ?_, hthird, Or.inr (Or.inr rfl)⟩
      simp only [List.find?_cons, decide_eq_false hfirst, decide_eq_false hsecond,
        decide_eq_true hthird, Option.getD_some]

/-- A whole number is below the next power of ten as it is. -/
theorem isBelowNext_whole {exponent : Int} {k : Nat} (hk : exponent + 1 = k) :
    IsBelowNext (n * one) exponent ↔ n < 10 ^ k := by
  rw [IsBelowNext, hk, scaled_natural, Nat.mul_comm n]
  exact Nat.mul_lt_mul_left one_pos

/-- **The search starts at a grid of a power of ten** from one to `10 ^ 16`. -/
theorem leadingExponent_whole (hn : 0 < n) (h : n ≤ 2 ^ 53) :
    ∃ l : Nat, leadingExponent (n * one) = l ∧ l ≤ 16 := by
  obtain ⟨k, hk⟩ : ∃ k, k = n.log2 * 30103 / 100000 := ⟨_, rfl⟩
  have hbits : n.log2 ≤ 53 := by
    have hlt := (Nat.log2_lt (Nat.ne_of_gt hn)).mpr (by omega : n < 2 ^ 54)
    omega
  have hestimate : (((n * one).log2 : Int) - 1074) * 30103 / 100000 - 1 = (k : Int) - 1 := by
    have hplaces : places = 1074 := rfl
    rw [one_eq, log2_mul_two_pow (by omega)]
    omega
  have hthird : n < 10 ^ (k + 2) := by
    have hall : ∀ bits ≤ 53, 2 ^ (bits + 1) ≤ 10 ^ (bits * 30103 / 100000 + 2) := by decide
    rw [hk]
    exact Nat.lt_log2_self.trans_le (hall _ hbits)
  obtain ⟨e, hleading, hbelow, he⟩ := leadingExponent_cases hestimate
    ((isBelowNext_whole (by omega)).mpr hthird)
  -- A place below the units would leave nothing of the number.
  have hunits : e ≠ -1 := by
    rintro rfl
    rw [isBelowNext_whole (k := 0) (by decide), Nat.pow_zero] at hbelow
    omega
  exact ⟨e.toNat, by omega, by omega⟩

/-! ## The text -/

/-- **The shortest decimal of a whole number** is the number, with some of its zeros as a power of
ten. -/
theorem shortest_whole (hn : 0 < n) (h : n ≤ 2 ^ 53) :
    ∃ digits exponent : Nat, shortest (n * one) = ⟨digits, exponent⟩ ∧ 0 < digits
      ∧ digits * 10 ^ exponent = n := by
  obtain ⟨l, hleading, hl⟩ := leadingExponent_whole hn h
  obtain ⟨e, hon, hfound⟩ := findSome?_onGrid h hl (by omega : l < 17)
  have hdigits : 0 < n / 10 ^ e := Nat.div_pos (Nat.le_of_dvd hn hon) (Nat.pow_pos (by decide))
  obtain ⟨digits, exponent, hstripped, hpos, hvalue⟩ := Decimal.stripped_natural hdigits e
  refine ⟨digits, exponent, ?_, hpos, ?_⟩
  · simp only [shortest, hleading, hfound, Option.getD_some, hstripped]
  · rw [hvalue, Nat.div_mul_cancel hon]

/-- **A whole number up to `2 ^ 53` is written with its decimal digits.** -/
theorem toText_ofNat (h : n ≤ 2 ^ 53) : (ofNat n).toText = Text.ofNat n := by
  rw [ofNat_eq h, toText]
  by_cases hzero : n = 0
  · rw [if_pos (by rw [hzero, Nat.zero_mul]), hzero, Text.ofNat_of_lt (by decide)]
    rfl
  · have hn : 0 < n := by omega
    obtain ⟨digits, exponent, hshortest, hpos, hvalue⟩ := shortest_whole hn h
    have hsize : digits * 10 ^ exponent < 10 ^ 21 := by
      rw [hvalue]
      exact h.trans_lt (by decide)
    rw [if_neg (Nat.mul_ne_zero hzero (Nat.ne_of_gt one_pos)), if_neg Bool.false_ne_true, hshortest,
      Decimal.toText_natural hpos hsize, hvalue]

end Number

end Turnstile
