import Mathlib.Algebra.BigOperators.Group.List.Basic
import Mathlib.Algebra.Order.Ring.Int
import Turnstile.Proofs.Number.Whole
import Turnstile.Routine.SquareSum

/-! # The loop over elements

* **`SquareSum.sumFrom_eq`** is what the loop does with a row of 32-bit signed integers: it adds their
  squares to what was summed before.
* **`SquareSum.sum_array`** adds the squares of the first elements of an array of such integers. -/

namespace Turnstile.SquareSum

variable {values : Value} {xs : List Int} {i : Int} {k index : Nat}

/-- **A 32-bit signed integer.** -/
def IsInt32 (i : Int) : Prop := -2 ^ 31 ≤ i ∧ i < 2 ^ 31

instance (i : Int) : Decidable (IsInt32 i) := inferInstanceAs (Decidable (_ ∧ _))

/-- The sum of the squares of integers. -/
def squares (xs : List Int) : Int := (xs.map fun x => x ^ 2).sum

theorem squares_cons (x : Int) (xs : List Int) : squares (x :: xs) = x ^ 2 + squares xs := by
  rw [squares, List.map_cons, List.sum_cons, squares]

theorem natCast_natAbs_mul_self (i : Int) : ((i.natAbs * i.natAbs : Nat) : Int) = i ^ 2 := by
  rw [Int.natAbs_mul_self, sq]

/-- A number that is a 32-bit signed integer is found. -/
theorem int32?_of_toInt? {x : Number} (hx : x.toInt? = some i) (h : IsInt32 i) :
    int32? (.number x) = some i := by
  obtain ⟨hleast, hgreatest⟩ := h
  have hrange : (decide (-2147483648 ≤ i) && decide (i < 2147483648)) = true := by
    rw [Bool.and_eq_true, decide_eq_true_iff, decide_eq_true_iff]
    omega
  simp only [int32?, hx, hrange, if_true]

theorem int32?_ofInt (h : IsInt32 i) : int32? (.number (.ofInt i)) = some i := by
  obtain ⟨hleast, hgreatest⟩ := id h
  exact int32?_of_toInt? (Number.toInt?_ofInt (by omega)) h

/-- **The loop adds the squares of a row of integers** to what was summed before. -/
theorem sumFrom_eq (h : ∀ j x, xs[j]? = some x → int32? (values.element (index + j)) = some x)
    (sum : Nat) :
    ∃ total, sumFrom values sum index xs.length = .ok total ∧ (total : Int) = sum + squares xs := by
  -- What was summed before and the index stay open: each turn moves both.
  induction xs generalizing sum index with
  | nil => exact ⟨sum, rfl, by rw [squares, List.map_nil, List.sum_nil, Int.add_zero]⟩
  | cons x xs ih =>
    have hfirst : int32? (values.element index) = some x := h 0 x rfl
    have hrest : ∀ j y, xs[j]? = some y → int32? (values.element (index + 1 + j)) = some y := by
      intro j y hy
      have hnext := h (j + 1) y (by rwa [List.getElem?_cons_succ])
      rwa [Nat.add_comm j 1, ← Nat.add_assoc] at hnext
    obtain ⟨total, htotal, hvalue⟩ := ih hrest (sum + x.natAbs * x.natAbs)
    refine ⟨total, ?_, ?_⟩
    · simp only [List.length_cons, sumFrom, hfirst, htotal]
    · rw [hvalue, Int.natCast_add, natCast_natAbs_mul_self, squares_cons, Int.add_assoc]

/-- The array of the numbers of integers. -/
def arrayOf (xs : List Int) : Value := .array (xs.map fun x => some (.number (.ofInt x)))

theorem element_arrayOf {j : Nat} {x : Int} (h : xs[j]? = some x) :
    (arrayOf xs).element j = .number (.ofInt x) := by
  simp only [arrayOf, Value.element, List.getElem?_map, h, Option.map_some, Option.getD_some]

/-- A number that is a natural number counts elements, unless it is more than there are. -/
theorem count?_of_toInt? {x : Number} {available : Value} (hx : x.toInt? = some (k : Int))
    (hmore : moreThan x available = false) : count? available (.number x) = some k := by
  have hsign : ¬ (k : Int) < 0 := by omega
  simp only [count?, hx, hmore, decide_eq_false hsign, Bool.or_self, Bool.false_eq_true, if_false,
    Int.toNat_natCast]

theorem moreThan_number (x available : Number) :
    moreThan x (.number available) = available.lt x := rfl

theorem count?_ofNat {available : Nat} (hk : k ≤ available) (h : available ≤ 2 ^ 53) :
    count? (.number (.ofNat available)) (.number (.ofNat k)) = some k := by
  refine count?_of_toInt? (Number.toInt?_ofNat (hk.trans h)) ?_
  rw [moreThan_number, Number.lt_ofNat h (hk.trans h), decide_eq_false_iff_not]
  omega

/-- A number of elements that counts them starts the loop at the first one. -/
theorem sum_of_count? {x : Number} (hcount : count? values.length (.number x) = some k) :
    SquareSum.sum values (.number x) = sumFrom values 0 0 k := by
  simp only [SquareSum.sum, hcount]

/-- Without a number of elements, that is the length that is there. -/
theorem sum_undefined (values : Value) :
    SquareSum.sum values .undefined = SquareSum.sum values values.length := by
  simp only [SquareSum.sum]
  cases values.length <;> rfl

/-- **The first elements of an array of 32-bit signed integers** have the sum of their squares. -/
theorem sum_array (hxs : ∀ x ∈ xs, IsInt32 x) (hlength : xs.length ≤ 2 ^ 53) (hk : k ≤ xs.length) :
    ∃ total : Nat, SquareSum.sum (arrayOf xs) (.number (.ofNat k)) = .ok total
      ∧ (total : Int) = squares (xs.take k) := by
  have havailable : (arrayOf xs).length = .number (.ofNat xs.length) := by
    rw [arrayOf, Value.length, List.length_map]
  have helements : ∀ j x, (xs.take k)[j]? = some x →
      int32? ((arrayOf xs).element (0 + j)) = some x := by
    intro j x hx
    have hall : xs[j]? = some x := by
      rw [List.getElem?_take] at hx
      split at hx
      · exact hx
      · exact absurd hx nofun
    rw [Nat.zero_add, element_arrayOf hall, int32?_ofInt (hxs x (List.mem_of_getElem? hall))]
  obtain ⟨total, htotal, hvalue⟩ := sumFrom_eq helements 0
  rw [List.length_take, Nat.min_eq_left hk] at htotal
  refine ⟨total, ?_, ?_⟩
  · rw [← htotal]
    exact sum_of_count? (by rw [havailable, count?_ofNat hk hlength])
  · rw [hvalue, Int.natCast_zero, Int.zero_add]

/-- A call of the routine that has a sum. -/
theorem call_of_sum {arguments : List Value} {length : Value} {total : Nat}
    (h : SquareSum.sum values length = .ok total) (hvalues : argument arguments 0 = values)
    (hlength : argument arguments 1 = length) (world : World) :
    routine.call world arguments = (⟨world.memory, world.calls + 1⟩, .ok (.integer total)) := by
  simp only [routine, Routine.call, Routine.pure, hvalues, hlength, h]

/-- A call of the routine that has none. -/
theorem call_of_fault {arguments : List Value} {length : Value} {fault : Fault}
    (h : SquareSum.sum values length = .error fault) (hvalues : argument arguments 0 = values)
    (hlength : argument arguments 1 = length) (world : World) :
    routine.call world arguments = (⟨world.memory, world.calls + 1⟩, .error fault.toValue) := by
  simp only [routine, Routine.call, Routine.pure, hvalues, hlength, h]

end Turnstile.SquareSum
