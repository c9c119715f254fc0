import Turnstile.Value

/-! # How values settle

What is waited for settles as a value that is there or as a value that is thrown, or it never settles.

* **`Value.Settles`** lists the ways to settle, each by what a promise is, or by what the member `then`
  of a record does with a value.
* **`Value.settle_eq_some_iff`** says that these are the ways of the function, and
  **`Value.settle_eq_none_iff`** that a wait never ends where there is none. -/

namespace Turnstile.Value

variable {v : Value} {ending : Completion} {members : List (Text × Value)} {key : Text}

/-- The member `then` of a record does something with a value of its own. -/
def Passes (members : List (Text × Value)) (conduct : Conduct) (v : Value) : Prop :=
  members.lookup ("then" : Text) = some (.function (some (conduct, v)))

/-- **A value that is there** when it is waited for: no promise, and no record with a function under
`then`. -/
def IsThere : Value → Prop
  | .promise .. => False
  | .record members => ∀ conduct, members.lookup ("then" : Text) ≠ some (.function conduct)
  | _ => True

/-- **How a value settles.** -/
inductive Settles : Value → Completion → Prop where
  | there {v : Value} (there : v.IsThere) : Settles v (.ok v)
  /-- A promise is kept with a value that is waited for in its turn, -/
  | kept {v : Value} {ending : Completion} (inside : Settles v ending) :
    Settles (.promise false v) ending
  /-- or it is rejected. -/
  | rejected (thrown : Value) : Settles (.promise true thrown) (.error thrown)
  /-- A value that is handed on is waited for in its turn. -/
  | handedOn {members : List (Text × Value)} {v : Value} {ending : Completion}
      (passed : Passes members .handsOn v) (inside : Settles v ending) :
    Settles (.record members) ending
  | refused {members : List (Text × Value)} {thrown : Value}
      (passed : Passes members .rejects thrown) : Settles (.record members) (.error thrown)
  | thrown {members : List (Text × Value)} {thrown : Value}
      (passed : Passes members .throws thrown) : Settles (.record members) (.error thrown)

/-! ## The member that is called -/

/-- What a wait for a record comes to is settled by its member `then`. -/
theorem handed_eq (members : List (Text × Value)) :
    settle.handed members = (members.lookup ("then" : Text)).bind settle.called := by
  induction members with
  | nil => rfl
  | cons member members ih =>
    obtain ⟨key, v⟩ := member
    rw [settle.handed, List.lookup_cons]
    by_cases hkey : key = "then"
    · rw [if_pos hkey, hkey, beq_self_eq_true]
      rfl
    · rw [if_neg hkey, ih, beq_false_of_ne (Ne.symm hkey)]

/-- A member is smaller than the members. -/
theorem sizeOf_lt_of_lookup (h : members.lookup key = some v) : sizeOf v < sizeOf members := by
  obtain ⟨front, back, rfl, -⟩ := List.lookup_eq_some_iff.mp h
  have hmember := List.sizeOf_lt_of_mem
    (List.mem_append_right front (List.mem_cons_self : (key, v) ∈ (key, v) :: back))
  have hsize : sizeOf (key, v) = 1 + sizeOf key + sizeOf v := rfl
  omega

/-- What is passed on is smaller than the record. -/
theorem Passes.sizeOf_lt {conduct : Conduct} (h : Passes members conduct v) :
    sizeOf v < sizeOf (Value.record members) := by
  have hmember := sizeOf_lt_of_lookup h
  simp only [function.sizeOf_spec, record.sizeOf_spec, Option.some.sizeOf_spec,
    Prod.mk.sizeOf_spec] at hmember ⊢
  omega

/-! ## Waiting -/

theorem settle_of_isThere (h : v.IsThere) : v.settle = some (.ok v) := by
  cases v with
  | promise => exact h.elim
  | record members =>
    rw [settle, handed_eq]
    cases hthen : members.lookup ("then" : Text) with
    | none => rfl
    | some w =>
      cases w with
      | function conduct => exact absurd hthen (h conduct)
      | _ => rfl
  | _ => rfl

/-- The wait for a record whose member `then` passes a value on. -/
theorem settle_of_passes {conduct : Conduct} (h : Passes members conduct v) :
    (Value.record members).settle
      = match conduct with
        | .handsOn => v.settle
        | .rejects => some (.error v)
        | .throws => some (.error v)
        | .returns => none := by
  rw [settle, handed_eq, h]
  cases conduct <;> rfl

/-- Every way to settle is found, -/
theorem Settles.settle_eq (h : v.Settles ending) : v.settle = some ending := by
  induction h with
  | there there => exact settle_of_isThere there
  | kept _ ih => exact ih
  | rejected => rfl
  | handedOn passed _ ih => rw [settle_of_passes passed, ih]
  | refused passed => rw [settle_of_passes passed]
  | thrown passed => rw [settle_of_passes passed]

/-- and nothing else is. -/
theorem settles_of_settle (v : Value) (h : v.settle = some ending) : v.Settles ending := by
  -- The recursion is that of the wait: what a promise holds and what a record hands on is smaller.
  cases v with
  | promise rejected v =>
    cases rejected with
    | true =>
      rw [← Option.some.inj h]
      exact .rejected v
    | false => exact .kept (settles_of_settle v h)
  | record members =>
    by_cases hthen : ∃ conduct, members.lookup ("then" : Text) = some (.function conduct)
    · obtain ⟨none | ⟨conduct, v⟩, hthen⟩ := hthen
      · rw [settle, handed_eq, hthen] at h
        cases h
      · have hpasses : Passes members conduct v := hthen
        rw [settle_of_passes hpasses] at h
        cases conduct with
        | handsOn =>
          have hsmaller := hpasses.sizeOf_lt
          exact .handedOn hpasses (settles_of_settle v h)
        | rejects =>
          rw [← Option.some.inj h]
          exact .refused hpasses
        | throws =>
          rw [← Option.some.inj h]
          exact .thrown hpasses
        | returns => cases h
    · have hthere : (Value.record members).IsThere := fun conduct hconduct => hthen ⟨conduct, hconduct⟩
      rw [settle_of_isThere hthere] at h
      rw [← Option.some.inj h]
      exact .there hthere
  | _ =>
    rw [← Option.some.inj h]
    exact .there trivial
termination_by sizeOf v

/-- **A value settles in one way at most**, and the function finds it. -/
theorem settle_eq_some_iff : v.settle = some ending ↔ v.Settles ending :=
  ⟨settles_of_settle v, Settles.settle_eq⟩

/-- **A wait never ends** where there is no way to settle. -/
theorem settle_eq_none_iff : v.settle = none ↔ ∀ ending, ¬ v.Settles ending := by
  simp only [← settle_eq_some_iff, Option.eq_none_iff_forall_ne_some, ne_eq]

end Turnstile.Value
