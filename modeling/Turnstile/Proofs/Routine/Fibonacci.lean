import Mathlib.Data.Nat.Fib.Basic
import Turnstile.Proofs.Number.Counting
import Turnstile.Routine.Fibonacci

/-! # The loop over neighbours

The counter of the loop is a number, and every index that is taken is a safe integer. So the counter is
exact as long as the loop goes on, and still where it ends: for the largest index that is `2 ^ 53`, the
last whole number that is reached by counting up.

* **`Fibonacci.Loop.run_start`** is what the loop keeps: an exact counter and a pair of neighbours.
* **`Fibonacci.Loop.endless`** says why an index has to be safe: the loop for any larger one has no end.
* **`Fibonacci.value_ofNat`** calls the routine with an index that is held exactly.
* **`Fibonacci.value_exact`** is about every number. -/

namespace Turnstile.Fibonacci

variable {n m turns : Nat} {i : Int} {index : Number}

/-! ## Turns of the loop -/

namespace Loop

/-- The loop after some turns, as far as numbers count. -/
def after (turns : Nat) : Loop :=
  ⟨.ofNat (min (turns + 2) (2 ^ 53)), Nat.fib turns, Nat.fib (turns + 1)⟩

theorem after_zero : after 0 = start := rfl

/-- The counter is compared with an index as whole numbers are. -/
theorem counter_le (hindex : index.toInt? = some i) :
    (after turns).counter.le index = decide (((min (turns + 2) (2 ^ 53) : Nat) : Int) ≤ i) := by
  dsimp only [after]
  exact Number.le_of_toInt? (Number.toInt?_ofNat (Nat.min_le_right _ _)) hindex

/-- **A turn of the loop** moves the counter and the neighbours along. -/
theorem next?_after (hindex : index.toInt? = some i)
    (h : ((min (turns + 2) (2 ^ 53) : Nat) : Int) ≤ i) :
    (after turns).next? index = some (after (turns + 1)) := by
  rw [next?, counter_le hindex, if_pos (decide_eq_true h)]
  simp only [after, Number.add_one_counter (turns + 2), Nat.fib_add_two]

/-- **The loop ends** when its counter is past the index. -/
theorem next?_after_eq_none (hindex : index.toInt? = some (n : Int)) (hn : n < 2 ^ 53)
    (h : n < turns + 2) : (after turns).next? index = none := by
  have hpast : ¬ ((min (turns + 2) (2 ^ 53) : Nat) : Int) ≤ n := by omega
  rw [next?, counter_le hindex, if_neg (by simpa using hpast)]

/-- **What the loop keeps**: up to the turn that passes the index it is after as many turns as were
made. -/
theorem run_after (hindex : index.toInt? = some (n : Int)) (h : m + turns + 1 ≤ n) :
    run index turns (after m) = after (m + turns) := by
  induction turns generalizing m with
  | zero => rfl
  | succ turns ih =>
    have hnext : (after m).next? index = some (after (m + 1)) := next?_after hindex (by omega)
    rw [run, hnext]
    dsimp only
    rw [ih (by omega), Nat.add_right_comm, Nat.add_assoc]

/-- Nothing changes behind the end. -/
theorem run_of_next?_eq_none {loop : Loop} (h : loop.next? index = none) (turns : Nat) :
    run index turns loop = loop := by
  cases turns with
  | zero => rfl
  | succ turns => rw [run, h]

/-- A run can be cut anywhere. -/
theorem run_add (index : Number) (m turns : Nat) (loop : Loop) :
    run index (m + turns) loop = run index turns (run index m loop) := by
  induction m generalizing loop with
  | zero => rw [Nat.zero_add, run]
  | succ m ih =>
    rw [Nat.succ_add, run, run]
    cases hnext : loop.next? index with
    | some later => exact ih later
    | none => exact (run_of_next?_eq_none hnext turns).symm

/-- **The whole loop** for an index from two on. -/
theorem run_start (hindex : index.toInt? = some (n : Int)) (hpos : 2 ≤ n) (hn : n < 2 ^ 53)
    (h : n - 1 ≤ turns) : start.run index turns = after (n - 1) := by
  have hend : (after (n - 1)).next? index = none := next?_after_eq_none hindex hn (by omega)
  have hturns : turns = n - 1 + (turns - (n - 1)) := by omega
  rw [hturns, run_add, ← after_zero, run_after hindex (by omega), Nat.zero_add,
    run_of_next?_eq_none hend]

/-- **Past the safe integers there is no end**: the counter stays at `2 ^ 53`. -/
theorem endless (hindex : index.toInt? = some i) (hi : 2 ^ 53 ≤ i) (turns : Nat) :
    (start.run index turns).next? index ≠ none := by
  have hnext (m : Nat) : (after m).next? index = some (after (m + 1)) := by
    refine next?_after hindex (le_trans ?_ hi)
    exact_mod_cast Nat.min_le_right _ _
  have hrun : start.run index turns = after turns := by
    rw [← after_zero]
    induction turns with
    | zero => rfl
    | succ turns ih =>
      rw [run_add, ih, run, hnext turns]
      rfl
  rw [hrun, hnext turns]
  exact nofun

end Loop

/-! ## The routine -/

/-- **The Fibonacci number at an index.** -/
theorem number_eq_fib (hindex : index.toInt? = some (n : Int)) (hn : n < 2 ^ 53) :
    number index = Nat.fib n := by
  have hone : (1 : Number).toInt? = some ((1 : Nat) : Int) := Number.toInt?_ofNat (by decide)
  rw [number, Number.le_of_toInt? hindex hone, Number.truncate_of_toInt? hindex, Int.toNat_natCast]
  by_cases hsmall : n ≤ 1
  · rw [if_pos (by simpa using hsmall)]
    match n, hsmall with
    | 0, _ => rfl
    | 1, _ => rfl
  · rw [if_neg (by simpa using hsmall), Loop.run_start hindex (by omega) hn (by omega), Loop.after,
      Nat.sub_add_cancel (by omega)]

/-- **A safe natural number is an index**, -/
theorem index?_of_toInt? (hindex : index.toInt? = some (n : Int)) (hn : n ≤ Number.maxSafeInteger) :
    index? (.number index) = some index := by
  have hsafe : index.toSafeInt? = some (n : Int) := by
    rw [Number.toSafeInt?, hindex]
    exact if_pos (by rwa [Int.natAbs_natCast])
  rw [index?, hsafe]
  exact if_neg (Int.not_lt.mpr (Int.natCast_nonneg n))

/-- and so the routine gives its Fibonacci number. -/
theorem value_of_toInt? (hindex : index.toInt? = some (n : Int)) (hn : n ≤ Number.maxSafeInteger) :
    value (.number index) = .ok (.integer (Nat.fib n)) := by
  have hlt : n < 2 ^ 53 := lt_of_le_of_lt hn (by decide)
  rw [value, index?_of_toInt? hindex hn]
  dsimp only
  rw [number_eq_fib hindex hlt]

/-- **The routine at a safe natural number.** -/
theorem value_ofNat (h : n ≤ Number.maxSafeInteger) :
    value (.number (.ofNat n)) = .ok (.integer (Nat.fib n)) :=
  value_of_toInt? (Number.toInt?_ofNat (h.trans (Nat.sub_le _ _))) h

/-- **Any other number is no index.** -/
theorem value_of_not_safe
    (h : ¬ ∃ n : Nat, index.toInt? = some (n : Int) ∧ n ≤ Number.maxSafeInteger) :
    value (.number index) = .error (.error "RangeError" (invalidIndex index.toText) none) := by
  have hnone : index? (.number index) = none := by
    rw [index?, Number.toSafeInt?]
    cases hinteger : index.toInt? with
    | none => rfl
    | some i =>
      by_cases hsafe : i.natAbs ≤ Number.maxSafeInteger
      · -- A safe integer that is no index is below zero.
        have hneg : i < 0 := by
          by_contra hpos
          obtain ⟨n, rfl⟩ := Int.eq_ofNat_of_zero_le (Int.not_lt.mp hpos)
          exact h ⟨n, hinteger, by rwa [Int.natAbs_natCast] at hsafe⟩
        simp [hsafe, hneg]
      · simp [hsafe]
  rw [value, hnone]
  rfl

/-- A call of the routine that has an index. -/
theorem call_of_value {index : Value} {completion : Completion} (h : value index = completion)
    (world : World) :
    routine.call world [index] = (⟨world.memory, world.calls + 1⟩, completion) := by
  rw [← h]
  rfl

/-! ## Every number -/

/-- **How the loop for an index goes**: its counter is exact after every turn, up to the one that passes
the index. -/
structure Loop.CountsTo (index : Number) (n : Nat) : Prop where
  /-- After each turn the counter is the whole number that it stands for, and the neighbours are
  Fibonacci numbers. -/
  exact : ∀ turns ≤ n - 1,
    (start.run index turns).counter.toInt? = some ((turns : Int) + 2)
      ∧ (start.run index turns).previous = Nat.fib turns
      ∧ (start.run index turns).current = Nat.fib (turns + 1)
  /-- The loop goes on until its counter is past the index. -/
  goesOn : ∀ turns < n - 1, (start.run index turns).next? index ≠ none
  /-- It ends there, and stays there however many turns it may still make. -/
  ends : ∀ turns ≥ n - 1, (start.run index turns).next? index = none
    ∧ start.run index turns = start.run index (n - 1)

theorem Loop.countsTo (hindex : index.toInt? = some (n : Int)) (hpos : 2 ≤ n) (hn : n < 2 ^ 53) :
    Loop.CountsTo index n := by
  have hrun (turns : Nat) (h : turns ≤ n - 1) : start.run index turns = after turns := by
    rw [← after_zero, run_after hindex (by omega), Nat.zero_add]
  constructor
  · intro turns hturns
    have hcounter : min (turns + 2) (2 ^ 53) = turns + 2 := Nat.min_eq_left (by omega)
    have hexact : (Number.ofNat (turns + 2)).toInt? = some ((turns + 2 : Nat) : Int) :=
      Number.toInt?_ofNat (by omega)
    rw [hrun turns hturns, after, hcounter]
    dsimp only
    rw [hexact]
    exact ⟨by push_cast; rfl, rfl, rfl⟩
  · intro turns hturns
    rw [hrun turns hturns.le, next?_after hindex (by omega)]
    exact nofun
  · intro turns hturns
    rw [run_start hindex hpos hn hturns, run_start hindex hpos hn le_rfl]
    exact ⟨next?_after_eq_none hindex hn (by omega), rfl⟩

/-- **Fibonacci numbers are exact.** The routine throws its error for a number exactly when that is no
safe integer or below zero. For any other number its loop ends, with a counter that was exact all the
way, and it gives the Fibonacci number of the recurrence; so the values of the routine satisfy the
addition law as far as indices go. -/
theorem value_exact :
    (∀ index : Number,
        ((∃ thrown, value (.number index) = .error thrown)
          ↔ ¬ ∃ i : Int, index.toInt? = some i ∧ 0 ≤ i ∧ i ≤ 2 ^ 53 - 1)
        ∧ (∀ thrown, value (.number index) = .error thrown →
            thrown = .error "RangeError" (invalidIndex index.toText) none)
        ∧ ∀ n : Nat, index.toInt? = some (n : Int) → n ≤ 2 ^ 53 - 1 →
            value (.number index) = .ok (.integer (Nat.fib n))
            ∧ (2 ≤ n → Loop.CountsTo index n))
      ∧ ∀ m n : Nat, 1 ≤ m → 1 ≤ n → m + n ≤ 2 ^ 53 - 1 →
        ∃ first second third fourth : Int,
          value (.number (.ofNat m)) = .ok (.integer first)
          ∧ value (.number (.ofNat (n + 1))) = .ok (.integer second)
          ∧ value (.number (.ofNat (m - 1))) = .ok (.integer third)
          ∧ value (.number (.ofNat n)) = .ok (.integer fourth)
          ∧ value (.number (.ofNat (m + n))) = .ok (.integer (first * second + third * fourth)) := by
  have hmax : Number.maxSafeInteger = 2 ^ 53 - 1 := rfl
  constructor
  · intro index
    by_cases hsafe : ∃ n : Nat, index.toInt? = some (n : Int) ∧ n ≤ Number.maxSafeInteger
    · obtain ⟨n, hindex, hn⟩ := hsafe
      have hvalue := value_of_toInt? hindex hn
      rw [hmax] at hn
      refine ⟨iff_of_false ?_ (not_not.mpr ⟨n, hindex, by omega, by omega⟩), ?_, ?_⟩
      · simp [hvalue]
      · simp [hvalue]
      · intro m hm hle
        obtain rfl : n = m := Int.ofNat.inj (Option.some.inj (hindex.symm.trans hm))
        exact ⟨hvalue, fun hpos => Loop.countsTo hindex hpos (by omega)⟩
    · have hvalue := value_of_not_safe hsafe
      refine ⟨iff_of_true ⟨_, hvalue⟩ ?_, ?_, ?_⟩
      · rintro ⟨i, hindex, hpos, hle⟩
        obtain ⟨n, rfl⟩ := Int.eq_ofNat_of_zero_le hpos
        exact hsafe ⟨n, hindex, by omega⟩
      · intro thrown hthrown
        exact (Except.error.inj (hvalue.symm.trans hthrown)).symm
      · intro n hindex hn
        exact absurd ⟨n, hindex, hn⟩ hsafe
  · intro m n hm hn hsum
    obtain ⟨m, rfl⟩ := Nat.exists_eq_add_of_le' hm
    have hvalue (k : Nat) (hk : k ≤ m + 1 + n) :
        value (.number (.ofNat k)) = .ok (.integer (Nat.fib k)) := value_ofNat (by omega)
    have hlaw : Nat.fib (m + 1 + n) = Nat.fib (m + 1) * Nat.fib (n + 1) + Nat.fib m * Nat.fib n := by
      rw [Nat.add_right_comm, Nat.fib_add]
      ring
    refine ⟨_, _, _, _, hvalue _ (by omega), hvalue _ (by omega), hvalue _ (by omega),
      hvalue _ (by omega), ?_⟩
    rw [hvalue _ le_rfl, hlaw]
    simp

end Turnstile.Fibonacci
