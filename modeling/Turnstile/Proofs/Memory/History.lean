import Turnstile.Proofs.Memory.Frame

/-! # Histories of runs

What the answers of a run say about where blocks went, without looking into an allocator.

* **`Movement`** is one block handed out or taken back, on its own or with a string around it;
  **`movements`** reads it off an operation and its answer, and **`history`** off a run.
* **`handedOut`**, **`takenBack`** and **`outstanding`** are the accounts that a history gives.
* **`run_induction`** carries an invariant of memory and history through a run. -/

namespace Turnstile.Memory

/-- One block that changed hands. -/
inductive Movement where
  /-- A block handed out as it is. -/
  | allocated (allocator : AllocatorId) (block : BlockId)
  /-- A block handed out to hold the text of a new string. -/
  | created (string : StringId) (allocator : AllocatorId) (block : BlockId) (text : Text)
  /-- A block taken back as it is. -/
  | returned (allocator : AllocatorId) (block : BlockId)
  /-- A block taken back when its string was released. -/
  | released (string : StringId) (allocator : AllocatorId) (block : BlockId)
  deriving DecidableEq

namespace Movement

/-- The allocator and the block, where a block was handed out. -/
def out? : Movement → Option (AllocatorId × BlockId)
  | .allocated a b => some (a, b)
  | .created _ a b _ => some (a, b)
  | _ => none

/-- The allocator and the block, where a block was taken back. -/
def back? : Movement → Option (AllocatorId × BlockId)
  | .returned a b => some (a, b)
  | .released _ a b => some (a, b)
  | _ => none

end Movement

/-- **The blocks that an operation moves**, read off its answer. Nothing moves where it fails. -/
def movements (m : Memory) (operation : Operation) : List Movement :=
  match operation, (m.perform operation).2 with
  | .allocate a _, .ok (.block (some b)) => [.allocated a b]
  | .create text a, .ok (.string (some s)) =>
    [.created s a ((m.perform operation).1.string s).block text]
  | .returnBlock a b, .ok _ => [.returned a b]
  | .release (some s), .ok _ => [.released s (m.string s).allocator (m.string s).block]
  | _, _ => []

/-- **The history of a run.** -/
def history (m : Memory) : List Operation → List Movement
  | [] => []
  | operation :: rest => m.movements operation ++ history (m.perform operation).1 rest

/-- Every block that was handed out, with the allocator that it came from. -/
def handedOut (h : List Movement) : List (AllocatorId × BlockId) := h.filterMap Movement.out?

/-- Every block that was taken back, with the allocator that it went to. -/
def takenBack (h : List Movement) : List (AllocatorId × BlockId) := h.filterMap Movement.back?

/-- The blocks that went out from an allocator and did not come back to it. -/
def remaining (out back : List (AllocatorId × BlockId)) (a : AllocatorId) : List BlockId :=
  (out.filter fun p => p.1 = a ∧ p ∉ back).map (·.2)

/-- **The blocks outstanding** from an allocator: handed out by it, and not taken back by it. -/
def outstanding (h : List Movement) (a : AllocatorId) : List BlockId :=
  remaining (handedOut h) (takenBack h) a

variable {h : List Movement} {m m' : Memory} {a a' : AllocatorId} {b b' : BlockId} {mv : Movement}

/-! ## Accounts of a longer history -/

theorem handedOut_append (h h' : List Movement) :
    handedOut (h ++ h') = handedOut h ++ handedOut h' := List.filterMap_append

theorem takenBack_append (h h' : List Movement) :
    takenBack (h ++ h') = takenBack h ++ takenBack h' := List.filterMap_append

/-- A block handed out is one more of those. -/
theorem handedOut_out {p : AllocatorId × BlockId} (hmv : mv.out? = some p) :
    handedOut (h ++ [mv]) = handedOut h ++ [p] := by
  rw [handedOut_append, handedOut, handedOut, List.filterMap_cons, hmv, List.filterMap_nil]

/-- What takes a block back hands none out. -/
theorem handedOut_back {p : AllocatorId × BlockId} (hmv : mv.back? = some p) :
    handedOut (h ++ [mv]) = handedOut h := by
  cases mv with
  | allocated => simp [Movement.back?] at hmv
  | created => simp [Movement.back?] at hmv
  | returned => simp [handedOut, Movement.out?]
  | released => simp [handedOut, Movement.out?]

theorem takenBack_back {p : AllocatorId × BlockId} (hmv : mv.back? = some p) :
    takenBack (h ++ [mv]) = takenBack h ++ [p] := by
  rw [takenBack_append, takenBack, takenBack, List.filterMap_cons, hmv, List.filterMap_nil]

/-- What hands a block out takes none back. -/
theorem takenBack_out {p : AllocatorId × BlockId} (hmv : mv.out? = some p) :
    takenBack (h ++ [mv]) = takenBack h := by
  cases mv with
  | allocated => simp [takenBack, Movement.back?]
  | created => simp [takenBack, Movement.back?]
  | returned => simp [Movement.out?] at hmv
  | released => simp [Movement.out?] at hmv

theorem mem_outstanding :
    b ∈ outstanding h a ↔ (a, b) ∈ handedOut h ∧ (a, b) ∉ takenBack h := by
  simp only [outstanding, remaining, List.mem_map, List.mem_filter, decide_eq_true_eq, Prod.exists]
  constructor
  · rintro ⟨a', b', ⟨hout, rfl, hback⟩, rfl⟩
    exact ⟨hout, hback⟩
  · rintro ⟨hout, hback⟩
    exact ⟨a, b, ⟨hout, rfl, hback⟩, rfl⟩

/-! ## Runs -/

/-- Operations each of which is allowed by the history before it, which starts as given. -/
def Follows (allowed : List Movement → Operation → Prop) (h : List Movement) (m : Memory) :
    List Operation → Prop
  | [] => True
  | operation :: rest =>
    allowed h operation
      ∧ Follows allowed (h ++ m.movements operation) (m.perform operation).1 rest

instance decidableFollows {allowed : List Movement → Operation → Prop}
    [∀ h operation, Decidable (allowed h operation)] (h : List Movement) (m : Memory) :
    (operations : List Operation) → Decidable (Follows allowed h m operations)
  | [] => .isTrue trivial
  | operation :: rest =>
    have : Decidable (Follows allowed (h ++ m.movements operation) (m.perform operation).1 rest) :=
      decidableFollows _ _ rest
    inferInstanceAs (Decidable (_ ∧ _))

/-- Operations of which each is allowed whatever came before follow any history. -/
theorem follows_of_forall {allowed : List Movement → Operation → Prop}
    (hall : ∀ h operation, allowed h operation) (h : List Movement) (m : Memory)
    (operations : List Operation) : Follows allowed h m operations := by
  induction operations generalizing h m with
  | nil => trivial
  | cons operation rest ih => exact ⟨hall h operation, ih _ _⟩

theorem run_cons (m : Memory) (operation : Operation) (rest : List Operation) :
    (m.run (operation :: rest)).1 = ((m.perform operation).1.run rest).1 := rfl

theorem run_append (m : Memory) (first rest : List Operation) :
    (m.run (first ++ rest)).1 = ((m.run first).1.run rest).1 := by
  induction first generalizing m with
  | nil => rfl
  | cons operation first ih => rw [List.cons_append, run_cons, run_cons, ih]

/-- **Induction over a run**: what every allowed operation keeps, the run keeps. -/
theorem run_induction {allowed : List Movement → Operation → Prop}
    {P : List Movement → Memory → Prop}
    (step : ∀ h m operation, P h m → allowed h operation →
      P (h ++ m.movements operation) (m.perform operation).1)
    {operations : List Operation} (hfollows : Follows allowed h m operations) (hP : P h m) :
    P (h ++ m.history operations) (m.run operations).1 := by
  induction operations generalizing h m with
  | nil => rwa [history, List.append_nil]
  | cons operation rest ih =>
    obtain ⟨hallowed, hrest⟩ := hfollows
    rw [history, ← List.append_assoc, run_cons]
    exact ih hrest (step h m operation hP hallowed)

end Turnstile.Memory
