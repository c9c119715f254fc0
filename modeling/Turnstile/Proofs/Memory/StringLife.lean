import Mathlib.Data.List.Induction
import Turnstile.Proofs.Memory.Allocation
import Turnstile.Proofs.Memory.History

/-! # What becomes of strings

A string keeps the block and the allocator that it was made with, whatever the allocators of its
memory are. Its mark is set by the first attempt to release it, and by nothing else.

* **`record`** notes things down in a run; **`attempts`** are the strings that a run tried to
  release.
* **`StringsStep`** lists what an operation can do to the strings of a memory, and
  **`perform_strings`** says that there is nothing else.
* **`string_run`** says what a string keeps, and **`released_iff_mem_attempts`** when it is released.
-/

namespace Turnstile.Memory

variable {m m' : Memory} {a : AllocatorId} {b : BlockId} {s s' : StringId} {operation : Operation}

/-- A memory **knows** a string that was made in it. -/
def Knows (m : Memory) (s : StringId) : Prop := s.index < m.strings.length

instance (m : Memory) (s : StringId) : Decidable (m.Knows s) :=
  inferInstanceAs (Decidable (_ < _))

/-! ## Records of runs -/

/-- What is noted down in a run, looking at each operation and at the memory before it. -/
def record {β : Type} (note : Memory → Operation → Option β) (m : Memory) :
    List Operation → List β
  | [] => []
  | operation :: rest => (note m operation).toList ++ record note (m.perform operation).1 rest

theorem record_append {β : Type} (note : Memory → Operation → Option β) (m : Memory)
    (first rest : List Operation) :
    record note m (first ++ rest) = record note m first ++ record note (m.run first).1 rest := by
  induction first generalizing m with
  | nil => rfl
  | cons operation first ih =>
    rw [List.cons_append, record, record, ih, run_cons, List.append_assoc]

theorem record_concat {β : Type} (note : Memory → Operation → Option β) (m : Memory)
    (first : List Operation) (operation : Operation) :
    record note m (first ++ [operation])
      = record note m first ++ (note (m.run first).1 operation).toList := by
  rw [record_append, record, record, List.append_nil]

theorem run_concat (m : Memory) (first : List Operation) (operation : Operation) :
    (m.run (first ++ [operation])).1 = ((m.run first).1.perform operation).1 :=
  run_append m first [operation]

/-- The string that an operation tries to release, if there is one. -/
def attempt? (m : Memory) : Operation → Option StringId
  | .release (some s) => if m.Knows s then some s else none
  | _ => none

/-- **The strings that a run tries to release**, in order. -/
def attempts (m : Memory) (operations : List Operation) : List StringId :=
  record attempt? m operations

theorem mem_attempts_concat {first : List Operation} :
    s ∈ m.attempts (first ++ [operation])
      ↔ s ∈ m.attempts first ∨ (m.run first).1.attempt? operation = some s := by
  rw [attempts, record_concat, List.mem_append, Option.mem_toList, attempts]

theorem attempt?_eq_some :
    m.attempt? operation = some s ↔ operation = .release (some s) ∧ m.Knows s := by
  cases operation with
  | release string =>
    cases string with
    | none => simp [attempt?]
    | some s' =>
      simp only [attempt?, Option.ite_none_right_eq_some, Option.some.injEq,
        Operation.release.injEq]
      constructor
      · rintro ⟨hs, rfl⟩
        exact ⟨rfl, hs⟩
      · rintro ⟨rfl, hs⟩
        exact ⟨hs, rfl⟩
  | _ => simp [attempt?]

/-! ## The strings of a memory -/

@[simp] theorem provide_strings (m : Memory) (a : AllocatorId) (size : Int) :
    (m.provide a size).1.strings = m.strings := by
  unfold provide
  split
  · split <;> rfl
  · dsimp only
    split <;> rfl

@[simp] theorem allocate_strings (m : Memory) (a : AllocatorId) (size : Value) :
    (m.allocate a size).1.strings = m.strings := by
  unfold allocate
  split
  · split
    · rfl
    · exact provide_strings m a _
  · exact provide_strings m a _

/-- The strings after the making of one: one more, or none. -/
theorem createString_strings (m : Memory) (text : Text) (a : AllocatorId) :
    (m.createString text a).1.strings = m.strings
      ∨ ∃ b, (m.createString text a).1.strings = m.strings ++ [⟨b, a, false⟩] := by
  cases hnul : text.contains 0 with
  | true => exact Or.inl (by rw [createString_nul hnul])
  | false =>
    have hstrings := provide_strings m a ((Utf8.encode text).length + 1 : Nat)
    rw [createString_request hnul]
    split
    · next hp =>
      rw [hp] at hstrings
      exact Or.inl hstrings
    · next b hp =>
      rw [hp] at hstrings
      split
      · exact Or.inl hstrings
      · exact Or.inr ⟨b, by rw [written_strings, hstrings]⟩

/-- **What an operation can do to the strings**: nothing, make one more, or mark one that was not
released as released. -/
inductive StringsStep (m : Memory) : Operation → List OwnedString → Prop where
  /-- All strings are as they were; if one was to be released, it was released before. -/
  | keep (operation : Operation)
      (released : ∀ s, operation = .release (some s) → (m.string s).released = true) :
    StringsStep m operation m.strings
  /-- There is one more, and nothing was released. -/
  | add (operation : Operation) (b : BlockId) (a : AllocatorId)
      (other : ∀ s, operation ≠ .release (some s)) :
    StringsStep m operation (m.strings ++ [⟨b, a, false⟩])
  /-- One is released. -/
  | mark (s : StringId) (unreleased : (m.string s).released = false) :
    StringsStep m (.release (some s)) (m.markReleased s).strings

/-- **There is nothing else that an operation can do to the strings**, whatever the allocators are.
-/
theorem perform_strings (m : Memory) (operation : Operation) :
    StringsStep m operation (m.perform operation).1.strings := by
  have hkeep : ∀ {operation : Operation} {strings : List OwnedString}, strings = m.strings →
      (∀ s, operation ≠ .release (some s)) → StringsStep m operation strings := by
    rintro operation _ rfl hother
    exact .keep operation fun s hs => absurd hs (hother s)
  cases operation with
  | allocate a size => exact hkeep (allocate_strings m a size) (by simp)
  | returnBlock a b => exact hkeep (returnBlock_strings m a b) (by simp)
  | adopt bytes => exact hkeep rfl (by simp)
  | create text a =>
    rcases createString_strings m text a with hsame | ⟨b, hmore⟩
    · exact hkeep hsame (by simp)
    · have hstrings : (m.perform (.create text a)).1.strings = m.strings ++ [⟨b, a, false⟩] := hmore
      rw [hstrings]
      exact .add _ b a (by simp)
  | wrap b a => exact .add _ b a (by simp)
  | release string =>
    cases string with
    | none => exact hkeep rfl (by simp)
    | some s =>
      simp only [perform, release, releaseString]
      cases hs : (m.string s).released with
      | true =>
        refine .keep _ fun s' heq => ?_
        rw [Operation.release.injEq, Option.some.injEq] at heq
        rw [← heq, hs]
      | false =>
        simp only [Bool.false_eq_true, if_false, returnBlock_strings]
        exact .mark s hs
  | poke b index value => exact hkeep (poke_strings m b index value) (by simp)
  | isReleased s => exact hkeep rfl (by simp)
  | readText s => exact hkeep rfl (by simp)
  | readLength s => exact hkeep rfl (by simp)
  | readBlock s => exact hkeep rfl (by simp)

/-- A string that is known is found in the table. -/
theorem Knows.getElem? (hs : m.Knows s) : m.strings[s.index]? = some (m.string s) := by
  rw [Memory.string, List.getElem?_eq_getElem hs, Option.getD_some]

/-- A string that is not known counts as released. -/
theorem released_of_not_knows (hs : ¬ m.Knows s) : (m.string s).released = true :=
  released_of_getElem?_none (List.getElem?_eq_none_iff.mpr (Nat.le_of_not_lt hs))

/-- No operation makes a memory forget a string. -/
theorem Knows.perform (hs : m.Knows s) (operation : Operation) :
    (m.perform operation).1.Knows s := by
  have hstep := perform_strings m operation
  unfold Knows at hs ⊢
  generalize (m.perform operation).1.strings = strings at hstep ⊢
  cases hstep with
  | keep => exact hs
  | add b a =>
    rw [List.length_append]
    exact Nat.lt_add_right _ hs
  | mark s' =>
    rw [markReleased, List.length_modify]
    exact hs

/-- **A string keeps its block and its allocator**, and is released when it was or when that is what
the operation is about. -/
theorem string_perform (hs : m.Knows s) (operation : Operation) :
    ((m.perform operation).1.string s).block = (m.string s).block
      ∧ ((m.perform operation).1.string s).allocator = (m.string s).allocator
      ∧ (((m.perform operation).1.string s).released = true
          ↔ (m.string s).released = true ∨ operation = .release (some s)) := by
  have hstep := perform_strings m operation
  have hat := hs.getElem?
  have hafter := (hs.perform operation).getElem?
  generalize (m.perform operation).1.string s = string at hafter ⊢
  generalize (m.perform operation).1.strings = strings at hstep hafter
  cases hstep with
  | keep _ released =>
    rw [hat, Option.some.injEq] at hafter
    subst hafter
    refine ⟨rfl, rfl, Or.inl, ?_⟩
    rintro (h | h)
    · exact h
    · exact released s h
  | add _ b a other =>
    rw [List.getElem?_append_left hs, hat, Option.some.injEq] at hafter
    subst hafter
    exact ⟨rfl, rfl, Or.inl, fun h => h.resolve_right (other s)⟩
  | mark s' unreleased =>
    rw [markReleased, List.getElem?_modify, hat, Option.map_eq_map, Option.map_some,
      Option.some.injEq] at hafter
    by_cases hindex : s'.index = s.index
    · obtain rfl : s' = s := StringId.ext hindex
      rw [if_pos rfl] at hafter
      subst hafter
      simp
    · have hne : s' ≠ s := fun heq => hindex (by rw [heq])
      rw [if_neg hindex] at hafter
      subst hafter
      simp [hne]

/-- A string that was not known before is not released. -/
theorem released_perform_new (hold : ¬ m.Knows s) (hnew : (m.perform operation).1.Knows s) :
    ((m.perform operation).1.string s).released = false := by
  have hstep := perform_strings m operation
  have hat := hnew.getElem?
  unfold Knows at hold hnew
  generalize (m.perform operation).1.string s = string at hat ⊢
  generalize (m.perform operation).1.strings = strings at hstep hat hnew
  cases hstep with
  | keep => exact absurd hnew hold
  | add b a =>
    rw [List.length_append, List.length_singleton] at hnew
    have hindex : s.index = m.strings.length := by omega
    rw [hindex, List.getElem?_concat_length, Option.some.injEq] at hat
    rw [← hat]
  | mark s' =>
    rw [markReleased, List.length_modify] at hnew
    exact absurd hnew hold

/-! ## The strings of a run -/

/-- No run makes a memory forget a string. -/
theorem Knows.run (hs : m.Knows s) (operations : List Operation) :
    (m.run operations).1.Knows s := by
  induction operations generalizing m with
  | nil => exact hs
  | cons operation rest ih => exact ih (hs.perform operation)

/-- A string keeps its block and its allocator for ever. -/
theorem string_run (hs : m.Knows s) (operations : List Operation) :
    ((m.run operations).1.string s).block = (m.string s).block
      ∧ ((m.run operations).1.string s).allocator = (m.string s).allocator := by
  induction operations generalizing m with
  | nil => exact ⟨rfl, rfl⟩
  | cons operation rest ih =>
    obtain ⟨hblock, hallocator, -⟩ := string_perform hs operation
    rw [run_cons, ← hblock, ← hallocator]
    exact ih (hs.perform operation)

/-- A run tries to release only strings that were made in it or before. -/
theorem knows_of_mem_attempts {operations : List Operation} (hs : s ∈ m.attempts operations) :
    (m.run operations).1.Knows s := by
  induction operations using List.reverseRecOn with
  | nil => simp [attempts, record] at hs
  | append_singleton first operation ih =>
    rw [run_concat]
    rcases mem_attempts_concat.mp hs with hs | hs
    · exact (ih hs).perform operation
    · exact (attempt?_eq_some.mp hs).2.perform operation

/-- **A string is released exactly when someone tried to release it.** -/
theorem released_iff_mem_attempts {start : Memory} (hstart : start.strings = [])
    {operations : List Operation} (hs : (start.run operations).1.Knows s) :
    ((start.run operations).1.string s).released = true ↔ s ∈ start.attempts operations := by
  induction operations using List.reverseRecOn with
  | nil =>
    have hnone : ¬ start.Knows s := by simp [Knows, hstart]
    exact absurd hs hnone
  | append_singleton first operation ih =>
    rw [mem_attempts_concat, attempt?_eq_some]
    rw [run_concat] at hs ⊢
    by_cases hbefore : (start.run first).1.Knows s
    · rw [(string_perform hbefore operation).2.2, ih hbefore, and_iff_left hbefore]
    · -- A string that comes up now was not there to be released before.
      have hnot : s ∉ start.attempts first := fun h => hbefore (knows_of_mem_attempts h)
      rw [released_perform_new hbefore hs]
      simp [hbefore, hnot]

end Turnstile.Memory
