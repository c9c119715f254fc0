import Mathlib.Data.List.Nodup
import Mathlib.Data.List.Perm.Basic
import Turnstile.Proofs.Text.Decimal
import Turnstile.Value

/-! # Reading order

The order in which the members of a record are read.

* **`Value.IsReadingOrder`** describes it: the keys that are array indices come first and ascend, the
  other keys follow as they came.
* **`Value.IsReadingOrder.unique`** says that keys have one such order.
* **`Value.isReadingOrder_readingOrder`** says that keyed items are put into this order, and
  **`Value.perm_readingOrder`** that none is lost or made up. -/

namespace Turnstile.Value

variable {α : Type} {items : List (Text × α)} {item : Text × α} {key : Text} {n : Nat}
  {l : List (Nat × (Text × α))} {p : Nat × (Text × α)}

/-- The number of the keys that are array indices. -/
def indexLimit : Nat := 4294967295

/-- **Keys in reading order**: array indices in canonical form, ascending, and then all other keys in
the order of the keys given. -/
structure IsReadingOrder (keys ordered : List Text) : Prop where
  perm : ordered.Perm keys
  split : ∃ (indices : List Nat) (others : List Text), ordered = indices.map Text.ofNat ++ others
    ∧ indices.Pairwise (· < ·) ∧ (∀ n ∈ indices, n < indexLimit)
    ∧ others.Sublist keys ∧ ∀ key ∈ others, ∀ n < indexLimit, key ≠ Text.ofNat n

/-! ## One order -/

theorem ofNat_injective {m n : Nat} (h : Text.ofNat m = Text.ofNat n) : m = n := by
  have hread := Text.nat?_ofNat m
  rw [h, Text.nat?_ofNat] at hread
  exact (Option.some.inj hread).symm

section

variable {keys a b others : List Text} {indices : List Nat}

/-- The indices in front are those among the keys, -/
theorem mem_indices_iff (hperm : (indices.map Text.ofNat ++ others).Perm keys)
    (hlimit : ∀ n ∈ indices, n < indexLimit)
    (hothers : ∀ key ∈ others, ∀ n < indexLimit, key ≠ Text.ofNat n) :
    n ∈ indices ↔ n < indexLimit ∧ Text.ofNat n ∈ keys := by
  rw [← hperm.mem_iff, List.mem_append]
  constructor
  · intro hn
    exact ⟨hlimit n hn, Or.inl (List.mem_map_of_mem hn)⟩
  · rintro ⟨hn, hindex | hother⟩
    · obtain ⟨m, hm, heq⟩ := List.mem_map.mp hindex
      rwa [← ofNat_injective heq]
    · exact absurd rfl (hothers _ hother n hn)

/-- and the other keys are the ones that are none. -/
theorem mem_others_iff (hperm : (indices.map Text.ofNat ++ others).Perm keys)
    (hlimit : ∀ n ∈ indices, n < indexLimit)
    (hothers : ∀ key ∈ others, ∀ n < indexLimit, key ≠ Text.ofNat n) :
    key ∈ others ↔ key ∈ keys ∧ ∀ n < indexLimit, key ≠ Text.ofNat n := by
  rw [← hperm.mem_iff, List.mem_append]
  constructor
  · intro hkey
    exact ⟨Or.inr hkey, hothers key hkey⟩
  · rintro ⟨hindex | hother, hnone⟩
    · obtain ⟨m, hm, heq⟩ := List.mem_map.mp hindex
      exact absurd heq.symm (hnone m (hlimit m hm))
    · exact hother

/-- **There is one reading order** of keys. -/
theorem IsReadingOrder.unique (hkeys : keys.Nodup) (ha : IsReadingOrder keys a)
    (hb : IsReadingOrder keys b) : a = b := by
  obtain ⟨hperm, indices, others, rfl, hascending, hlimit, hsublist, hothers⟩ := ha
  obtain ⟨hperm', indices', others', rfl, hascending', hlimit', hsublist', hothers'⟩ := hb
  have hnodup : ∀ {l : List Nat}, l.Pairwise (· < ·) → l.Nodup :=
    fun h => h.imp fun hlt => Nat.ne_of_lt hlt
  -- Both halves have the same members in either order, and an order of their own.
  have hindices : indices = indices' := by
    refine List.Perm.eq_of_pairwise (fun _ _ _ _ hlt hgt => ?_) hascending hascending' ?_
    · exact absurd hlt (Nat.lt_asymm hgt)
    · refine (List.perm_ext_iff_of_nodup (hnodup hascending) (hnodup hascending')).mpr fun n => ?_
      rw [mem_indices_iff hperm hlimit hothers, mem_indices_iff hperm' hlimit' hothers']
  have hsame : others = others' := by
    refine (hkeys.perm_iff_eq_of_sublist hsublist hsublist').mp ?_
    refine (List.perm_ext_iff_of_nodup (hkeys.sublist hsublist) (hkeys.sublist hsublist')).mpr
      fun key => ?_
    rw [mem_others_iff hperm hlimit hothers, mem_others_iff hperm' hlimit' hothers']
  rw [hindices, hsame]

end

/-! ## Array indices -/

/-- **An array index** is written in canonical form. -/
theorem arrayIndex?_eq_some_iff : arrayIndex? key = some n ↔ key = Text.ofNat n ∧ n < indexLimit := by
  constructor
  · intro h
    rw [arrayIndex?] at h
    split at h
    · split at h
      · next hindex =>
        rw [Bool.and_eq_true, decide_eq_true_iff, beq_iff_eq] at hindex
        rw [← Option.some.inj h]
        exact ⟨hindex.2.symm, hindex.1⟩
      · exact absurd h nofun
    · exact absurd h nofun
  · rintro ⟨rfl, hn⟩
    have hindex : (decide (n < 4294967295) && Text.ofNat n == Text.ofNat n) = true := by
      rw [Bool.and_eq_true, decide_eq_true_iff, beq_iff_eq]
      exact ⟨hn, rfl⟩
    simp only [arrayIndex?, Text.nat?_ofNat, hindex, if_true]

theorem arrayIndex?_eq_none_iff :
    (arrayIndex? key).isNone = true ↔ ∀ n < indexLimit, key ≠ Text.ofNat n := by
  rw [Option.isNone_iff_eq_none, Option.eq_none_iff_forall_ne_some]
  simp only [ne_eq, arrayIndex?_eq_some_iff, not_and]
  exact ⟨fun h n hn hkey => h n hkey hn, fun h n hkey hn => h n hn hkey⟩

/-! ## Items with an index -/

/-- Items with their indices, the indices ascending. -/
def indexedItems (items : List (Text × α)) : List (Nat × (Text × α)) :=
  items.foldr (fun item done =>
    match arrayIndex? item.1 with
    | some n => insertIndexed n item done
    | none => done) []

theorem readingOrder_eq (items : List (Text × α)) :
    readingOrder items
      = (indexedItems items).map (·.2) ++ items.filter fun item => (arrayIndex? item.1).isNone :=
  rfl

theorem indexedItems_cons (item : Text × α) (items : List (Text × α)) :
    indexedItems (item :: items)
      = match arrayIndex? item.1 with
        | some n => insertIndexed n item (indexedItems items)
        | none => indexedItems items :=
  rfl

/-- Inserting loses nothing, -/
theorem perm_insertIndexed (n : Nat) (item : Text × α) (l : List (Nat × (Text × α))) :
    (insertIndexed n item l).Perm ((n, item) :: l) := by
  induction l with
  | nil => exact List.Perm.refl _
  | cons p l ih =>
    rw [insertIndexed]
    split
    · exact List.Perm.refl _
    · exact (ih.cons p).trans (List.Perm.swap _ _ _)

/-- and keeps the indices ascending. -/
theorem pairwise_insertIndexed (h : l.Pairwise fun p q => p.1 < q.1) (hn : ∀ p ∈ l, p.1 ≠ n) :
    (insertIndexed n item l).Pairwise fun p q => p.1 < q.1 := by
  induction l with
  | nil => exact List.pairwise_singleton _ _
  | cons p l ih =>
    obtain ⟨hfirst, hrest⟩ := List.pairwise_cons.mp h
    rw [insertIndexed]
    split
    · next hlt =>
      refine List.pairwise_cons.mpr ⟨fun q hq => ?_, h⟩
      rcases List.mem_cons.mp hq with rfl | hq
      · exact hlt
      · exact Nat.lt_trans hlt (hfirst q hq)
    · next hnot =>
      have hne : p.1 ≠ n := hn p List.mem_cons_self
      refine List.pairwise_cons.mpr
        ⟨fun q hq => ?_, ih hrest fun q hq => hn q (List.mem_cons_of_mem _ hq)⟩
      rcases List.mem_cons.mp ((perm_insertIndexed n item l).mem_iff.mp hq) with rfl | hq
      · exact Nat.lt_of_le_of_ne (Nat.not_lt.mp hnot) hne
      · exact hfirst q hq

/-- **An item with an index has the index of its key.** -/
theorem mem_indexedItems (h : p ∈ indexedItems items) :
    p.2 ∈ items ∧ arrayIndex? p.2.1 = some p.1 := by
  induction items with
  | nil => exact absurd h List.not_mem_nil
  | cons item items ih =>
    rw [indexedItems_cons] at h
    split at h
    · next n hindex =>
      rcases List.mem_cons.mp ((perm_insertIndexed n item _).mem_iff.mp h) with rfl | h
      · exact ⟨List.mem_cons_self, hindex⟩
      · exact ⟨List.mem_cons_of_mem _ (ih h).1, (ih h).2⟩
    · exact ⟨List.mem_cons_of_mem _ (ih h).1, (ih h).2⟩

/-- Every item with an index is there. -/
theorem perm_indexedItems (items : List (Text × α)) :
    ((indexedItems items).map (·.2)).Perm (items.filter fun item => !(arrayIndex? item.1).isNone) := by
  induction items with
  | nil => exact List.Perm.refl _
  | cons item items ih =>
    rw [indexedItems_cons]
    cases hindex : arrayIndex? item.1 with
    | none =>
      rw [List.filter_cons_of_neg (by rw [hindex]; decide)]
      exact ih
    | some n =>
      rw [List.filter_cons_of_pos (by rw [hindex]; rfl)]
      exact ((perm_insertIndexed n item _).map _).trans (ih.cons item)

/-- **The indices ascend**, for no key is there twice. -/
theorem pairwise_indexedItems (h : (items.map Prod.fst).Nodup) :
    (indexedItems items).Pairwise fun p q => p.1 < q.1 := by
  induction items with
  | nil => exact List.Pairwise.nil
  | cons item items ih =>
    rw [List.map_cons, List.nodup_cons] at h
    rw [indexedItems_cons]
    split
    · next n hindex =>
      refine pairwise_insertIndexed (ih h.2) ?_
      -- A second item with the index would have the same key.
      rintro p hp rfl
      obtain ⟨hmem, hp'⟩ := mem_indexedItems hp
      have hkey : p.2.1 = item.1 := by
        rw [(arrayIndex?_eq_some_iff.mp hp').1, (arrayIndex?_eq_some_iff.mp hindex).1]
      exact h.1 (hkey ▸ List.mem_map_of_mem hmem)
    · exact ih h.2

/-! ## All items -/

/-- **Nothing is lost in reading order**, and nothing made up. -/
theorem perm_readingOrder (items : List (Text × α)) : (readingOrder items).Perm items := by
  rw [readingOrder_eq]
  refine ((perm_indexedItems items).append_right _).trans ?_
  exact List.perm_append_comm.trans (List.filter_append_perm _ items)

/-- **Items are put into reading order** by their keys. -/
theorem isReadingOrder_readingOrder (h : (items.map Prod.fst).Nodup) :
    IsReadingOrder (items.map Prod.fst) ((readingOrder items).map Prod.fst) where
  perm := (perm_readingOrder items).map _
  split := by
    refine ⟨(indexedItems items).map Prod.fst,
      (items.filter fun item => (arrayIndex? item.1).isNone).map Prod.fst, ?_, ?_, ?_, ?_, ?_⟩
    · rw [readingOrder_eq, List.map_append, List.map_map, List.map_map]
      congr 1
      exact List.map_congr_left fun p hp => (arrayIndex?_eq_some_iff.mp (mem_indexedItems hp).2).1
    · exact List.pairwise_map.mpr (pairwise_indexedItems h)
    · intro n hn
      obtain ⟨p, hp, rfl⟩ := List.mem_map.mp hn
      exact (arrayIndex?_eq_some_iff.mp (mem_indexedItems hp).2).2
    · exact List.filter_sublist.map _
    · intro key hkey
      obtain ⟨item, hitem, rfl⟩ := List.mem_map.mp hkey
      exact arrayIndex?_eq_none_iff.mp (List.mem_filter.mp hitem).2

end Turnstile.Value
