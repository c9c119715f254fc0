import Turnstile.Proofs.CommandLine.Outcomes
import Turnstile.Proofs.CommandLine.ReadArguments
import Turnstile.Proofs.CommandLine.Steps
import Turnstile.Proofs.Library.Builtin
import Turnstile.Proofs.Library.Lookup
import Turnstile.Proofs.Memory.Balance

/-! # What runs do with owned strings

A run gives back the strings that the calls it makes hand out: it prints such a string as long as it is
there, and then it releases it. What a call returns or keeps for itself in any other way is not the
run's.

* **`Run.call?`** is the call that a run makes next and **`Run.call?_followed`** says that it is the one
  that the command line asks for. **`Run.next_of_call?`** is the step.
* **`Run.releases`** lists the strings that a run gives back, and **`Run.GivesBack`** is what there
  is to say about them.
* **`Builtin.sameAccounts_present`** is about one call of a built-in routine: no allocator has a block
  more or less than before.
* **`Run.leaks_nothing`** is about whole runs. -/

namespace Turnstile

open Memory

/-! ## One call -/

namespace Callable

variable {c : Callable} {values : List Value} {world settled : World} {s : StringId}

/-- The string that a call hands out without having released it, if it does. -/
def handedOut? (c : Callable) (values : List Value) (world : World) : Option StringId :=
  match c.callAndWait world values with
  | (settled, some (.ok (.owned s))) => if (settled.memory.string s).released then none else some s
  | _ => none

/-- The call that hands out a string. -/
theorem handedOut?_eq_some : c.handedOut? values world = some s ↔
    ∃ settled, c.callAndWait world values = (settled, some (.ok (.owned s)))
      ∧ (settled.memory.string s).released = false := by
  rw [handedOut?]
  split
  · next settled' s' hcall =>
    rw [hcall]
    by_cases hlive : (settled'.memory.string s').released = true
    · rw [if_pos hlive]
      refine ⟨nofun, ?_⟩
      rintro ⟨settled, heq, hnot⟩
      simp only [Prod.mk.injEq, Option.some.injEq, Except.ok.injEq, Value.owned.injEq] at heq
      obtain ⟨rfl, rfl⟩ := heq
      rw [hlive] at hnot
      cases hnot
    · rw [if_neg hlive, Option.some.injEq]
      constructor
      · rintro rfl
        exact ⟨settled', rfl, eq_false_of_ne_true hlive⟩
      · rintro ⟨settled, heq, -⟩
        simp only [Prod.mk.injEq, Option.some.injEq, Except.ok.injEq, Value.owned.injEq] at heq
        exact heq.2
  · next hother =>
    refine ⟨nofun, ?_⟩
    rintro ⟨settled, heq, -⟩
    exact absurd heq (hother settled s)

/-- **A string that is handed out is printed and then released**, whatever its allocator says to
that. -/
theorem present_of_handedOut (hcall : c.callAndWait world values = (settled, some (.ok (.owned s))))
    (hlive : (settled.memory.string s).released = false) (line : Text → Line) :
    ∃ text ending, settled.memory.stringText s = .ok text
      ∧ c.present world values line
        = (⟨(settled.memory.releaseString s).1, settled.calls⟩, [line text], some ending) := by
  have hblock : settled.memory.blockOf s = .ok (settled.memory.string s).block := by
    rw [blockOf, hlive]
    rfl
  have htext : settled.memory.stringText s
      = .ok (Utf8.read (settled.memory.contents (settled.memory.string s).block).dropLast) := by
    rw [stringText, hblock]
    rfl
  refine ⟨_, (settled.memory.releaseString s).2.mapError MemoryFault.toValue, htext, ?_⟩
  simp only [present, hcall, Value.display, htext, releaseResult, hlive, Bool.false_eq_true, if_false]
  rfl

/-- **Any other call** leaves the memory as it is when the call has settled. -/
theorem memory_present_of_none (h : c.handedOut? values world = none) (line : Text → Line) :
    (c.present world values line).1 = (c.callAndWait world values).1 := by
  rw [handedOut?] at h
  rw [present]
  rcases hcall : c.callAndWait world values with ⟨settled, _ | thrown | result⟩
  · rfl
  · rfl
  · simp only [hcall] at h ⊢
    cases hdisplay : result.display settled.memory with
    | error fault => rfl
    | ok text =>
      cases result with
      | owned s =>
        have hreleased : (settled.memory.string s).released = true := by
          by_contra hnot
          simp only [hnot, if_false] at h
          cases h
        simp only [releaseResult, hreleased, if_true]
      | _ => rfl

end Callable

/-! ## The calls of a run -/

namespace Run

variable {host : Host} {world : World} {arguments : List Text} {r : Run} {c : Callable}
  {values : List Value} {line : Text → Line} {steps : Nat} {s : StringId}

/-- The call that a run makes next, if it makes one, and the line for its text. -/
def call? (r : Run) : Option (Callable × List Value × (Text → Line)) :=
  match r.state with
  | .inl (.call c values) => some (c, values, .output)
  | .inl (.profile c values made repetitions) =>
    if made.lt repetitions then some (c, values, fun text => .timed (label (made.add 1) ++ text))
    else none
  | _ => none

/-- **A step with a call** is what the call comes to, -/
theorem next_of_call? (h : r.call? = some (c, values, line)) :
    ∃ left, r.next = after (c.present r.world values line) left := by
  obtain ⟨world, task | code⟩ := r
  · cases task with
    | nothing => cases h
    | call c' values' =>
      obtain ⟨rfl, rfl, rfl⟩ := Option.some.inj h
      exact ⟨_, rfl⟩
    | profile c' values' made repetitions =>
      simp only [call?, Option.ite_none_right_eq_some, Option.some.injEq, Prod.mk.injEq] at h
      obtain ⟨hmore, rfl, rfl, rfl⟩ := h
      rw [next]
      simp only [hmore, if_true]
      exact ⟨_, rfl⟩
  · cases h

theorem world_after (presented : World × List Line × Option (Except Value Unit)) (left : Task) :
    (after presented left).2.world = presented.1 := by
  obtain ⟨world, lines, _ | thrown | _⟩ := presented <;> rfl

/-- and any other step does nothing. -/
theorem next_of_call?_none (h : r.call? = none) : r.next.1 = [] ∧ r.next.2.world = r.world := by
  obtain ⟨world, task | code⟩ := r
  · cases task with
    | nothing => exact ⟨rfl, rfl⟩
    | call c values => exact absurd h nofun
    | profile c values made repetitions =>
      have hdone : ¬ made.lt repetitions = true := by
        intro hmore
        simp only [call?, hmore, if_true] at h
        exact absurd h nofun
      rw [next]
      simp only [hdone]
      exact ⟨rfl, rfl⟩
  · exact ⟨rfl, rfl⟩

/-- What a run calls after a step it was about to call before it. -/
theorem call?_next (h : r.next.2.call? = some (c, values, line)) :
    ∃ line', r.call? = some (c, values, line') := by
  obtain ⟨world, task | code⟩ := r
  · cases task with
    | nothing => cases h
    | call c' values' =>
      rw [next] at h
      simp only at h
      generalize c'.present world values' .output = presented at h
      obtain ⟨world', lines, _ | thrown | _⟩ := presented <;> cases h
    | profile c' values' made repetitions =>
      rw [next] at h
      simp only at h
      by_cases hmore : made.lt repetitions = true
      · rw [if_pos hmore] at h
        generalize c'.present world values' _ = presented at h
        obtain ⟨world', lines, _ | thrown | _⟩ := presented
        · cases h
        · cases h
        · simp only [after, call?, Option.ite_none_right_eq_some, Option.some.injEq,
            Prod.mk.injEq] at h
          obtain ⟨-, rfl, rfl, -⟩ := h
          rw [call?]
          simp only [hmore, if_true]
          exact ⟨_, rfl⟩
      · rw [if_neg hmore] at h
        cases h
  · cases h

/-! ## Runs followed from their start -/

/-- One step more. -/
theorem followed_succ (host : Host) (world : World) (arguments : List Text) (steps : Nat) :
    followed host world arguments (steps + 1)
      = ((followed host world arguments steps).1 ++ (followed host world arguments steps).2.next.1,
        (followed host world arguments steps).2.next.2) := by
  have hone : ∀ r : Run, r.complete 1 = r.next := by
    rintro ⟨world, task | code⟩
    · rw [complete_succ]
      simp only [complete, List.append_nil]
    · rfl
  simp only [followed, complete_add _ steps 1, hone, List.append_assoc]

/-- **A command line that calls only routines of a kind**, whatever library it asks for. -/
def CallsOnly (host : Host) (arguments : List Text) (kind : Routine → Prop) : Prop :=
  ∀ ⦃i r c values⦄, Invocation.parse host.directory host.builtinPath arguments = .ok i →
    i.Calls host r c values → kind c.target

/-- **A run calls what the command line asks for**, and nothing else. -/
theorem call?_followed (h : (followed host world arguments steps).2.call? = some (c, values, line)) :
    ∃ i r, Invocation.parse host.directory host.builtinPath arguments = .ok i
      ∧ i.Calls host r c values := by
  induction steps generalizing line with
  | zero =>
    have hprepared := Task.prepare_cases host arguments
    rw [followed, start] at h
    generalize Task.prepare host arguments = prepared at hprepared h
    obtain ⟨lines, task⟩ := prepared
    cases hprepared with
    | refused clean worded => cases h
    | unloaded clean fails unworded => cases h
    | nothing clean => cases h
    | @calls i r c' values' parsed calls =>
      simp only [complete, Invocation.task] at h
      refine ⟨i, r, parsed, ?_⟩
      by_cases hprofile : i.profile = true
      · rw [if_pos hprofile] at h
        simp only [call?, Option.ite_none_right_eq_some, Option.some.injEq, Prod.mk.injEq] at h
        obtain ⟨-, rfl, rfl, -⟩ := h
        exact calls
      · rw [if_neg hprofile] at h
        obtain ⟨rfl, rfl, -⟩ := Option.some.inj h
        exact calls
  | succ steps ih =>
    rw [followed_succ] at h
    obtain ⟨line', hbefore⟩ := call?_next h
    exact ih hbefore

end Run

/-! ## Strings that are given back -/

/-- **A routine that remembers strings**: whatever it does, it does not make a memory forget a string
or take back that it was released. -/
def Routine.Remembers (routine : Routine) : Prop :=
  ∀ (world : World) (values : List Value), world.memory.Remembers (routine.act world values).1

/-- Everything that can be done with a memory is of that kind. -/
theorem Routine.remembers_of_run {routine : Routine}
    (h : ∀ (world : World) (values : List Value), ∃ operations,
      (routine.act world values).1 = (world.memory.run operations).1) : routine.Remembers := by
  intro world values
  obtain ⟨operations, hact⟩ := h world values
  rw [hact]
  exact .run _ operations

/-- Neither does a call of it. -/
theorem Callable.remembers_callAndWait {c : Callable} (h : c.target.Remembers) (values : List Value)
    (world : World) : world.memory.Remembers (c.callAndWait world values).1.memory := by
  rw [callAndWait, call]
  cases c.signature.admit values with
  | error refusal => exact .refl _
  | ok => exact h world values

namespace Run

variable {host : Host} {world : World} {arguments : List Text} {r : Run} {c : Callable}
  {values : List Value} {line : Text → Line} {steps : Nat} {s : StringId}

/-- The string that the next step gives back, if it does. -/
def handedOut? (r : Run) : Option StringId :=
  match r.call? with
  | some (c, values, _) => c.handedOut? values r.world
  | none => none

/-- The world when the call of the next step has settled, if it makes one. -/
def settled (r : Run) : World :=
  match r.call? with
  | some (c, values, _) => (c.callAndWait r.world values).1
  | none => r.world

/-- **The strings that a run gives back** in its first steps, in order. -/
def releases (host : Host) (world : World) (arguments : List Text) (steps : Nat) : List StringId :=
  (List.range steps).filterMap fun k => (followed host world arguments k).2.handedOut?

theorem releases_succ (host : Host) (world : World) (arguments : List Text) (steps : Nat) :
    releases host world arguments (steps + 1)
      = releases host world arguments steps
        ++ (followed host world arguments steps).2.handedOut?.toList := by
  rw [releases, List.range_succ, List.filterMap_append, releases]
  cases hstep : (followed host world arguments steps).2.handedOut? <;> simp [hstep]

/-- **A step that gives a string back** prints it first. -/
theorem next_of_handedOut {settled : World} (hcall : r.call? = some (c, values, line))
    (hsettled : c.callAndWait r.world values = (settled, some (.ok (.owned s))))
    (hlive : (settled.memory.string s).released = false) :
    ∃ text rest, settled.memory.stringText s = .ok text ∧ r.next.1 = line text :: rest
      ∧ r.next.2.world.memory = (settled.memory.releaseString s).1 := by
  obtain ⟨text, ending, htext, hpresent⟩ := Callable.present_of_handedOut hsettled hlive line
  obtain ⟨left, hnext⟩ := next_of_call? hcall
  rw [hnext, hpresent]
  cases ending with
  | error thrown => exact ⟨text, (caught thrown).1, htext, rfl, rfl⟩
  | ok => exact ⟨text, [], htext, rfl, rfl⟩

/-- **A step that gives nothing back** leaves the memory to the call. -/
theorem memory_next_of_none (h : r.handedOut? = none) : r.next.2.world.memory = r.settled.memory := by
  rw [handedOut?] at h
  rw [settled]
  cases hcall : r.call? with
  | none =>
    simp only
    rw [(next_of_call?_none hcall).2]
  | some call =>
    obtain ⟨c, values, line⟩ := call
    simp only [hcall] at h ⊢
    have hworld := Callable.memory_present_of_none h line
    obtain ⟨left, hnext⟩ := next_of_call? hcall
    rw [hnext, world_after, hworld]

/-- What a step does to the memory: the call does what it does, and then there may be a release. -/
theorem memory_next (r : Run) :
    (r.handedOut? = none ∧ r.next.2.world.memory = r.settled.memory)
      ∨ ∃ s, r.handedOut? = some s ∧ (r.settled.memory.string s).released = false
        ∧ r.next.2.world.memory = (r.settled.memory.releaseString s).1 := by
  cases hhanded : r.handedOut? with
  | none => exact Or.inl ⟨rfl, memory_next_of_none hhanded⟩
  | some s =>
    refine Or.inr ⟨s, rfl, ?_⟩
    rw [handedOut?] at hhanded
    rw [settled]
    cases hcall : r.call? with
    | none =>
      rw [hcall] at hhanded
      exact absurd hhanded nofun
    | some call =>
      obtain ⟨c, values, line⟩ := call
      simp only [hcall] at hhanded ⊢
      obtain ⟨settled, hsettled, hlive⟩ := Callable.handedOut?_eq_some.mp hhanded
      obtain ⟨text, rest, -, -, hmemory⟩ := next_of_handedOut hcall hsettled hlive
      rw [hsettled]
      exact ⟨hlive, hmemory⟩

/-- **A string is given back by a step** that is about to make a call: when the call has settled, the
text of the string is read and printed, and then the string is released. -/
def GivesBackAt (host : Host) (world : World) (arguments : List Text) (steps : Nat) (settled : World)
    (line : Text → Line) (s : StringId) : Prop :=
  (followed host world arguments steps).2.handedOut? = some s
    ∧ ∃ text rest, settled.memory.stringText s = .ok text
      ∧ (followed host world arguments (steps + 1)).1
        = (followed host world arguments steps).1 ++ line text :: rest
      ∧ (followed host world arguments (steps + 1)).2.world.memory
        = (settled.memory.releaseString s).1

/-- **What a run gives back**: the strings that calls hand out to it, each after it was printed and
never again. -/
structure GivesBack (host : Host) (world : World) (arguments : List Text) : Prop where
  /-- A string that a call returns or that its result settles as, and that is not released yet, is
  printed and then released. -/
  printed : ∀ steps c values line settled v s,
    (followed host world arguments steps).2.call? = some (c, values, line) →
    c.call (followed host world arguments steps).2.world values = (settled, .ok v) →
    v.Settles (.ok (.owned s)) → (settled.memory.string s).released = false →
    GivesBackAt host world arguments steps settled line s
  /-- So is a string that the promise is kept with that a call returns: the run waits for it. -/
  promised : ∀ steps c values line settled s,
    (followed host world arguments steps).2.call? = some (c, values, line) →
    c.call (followed host world arguments steps).2.world values
      = (settled, .ok (.promise false (.owned s))) →
    (settled.memory.string s).released = false →
    GivesBackAt host world arguments steps settled line s
  /-- The run releases nothing else: the memory is what the call left. -/
  untouched : ∀ steps, (followed host world arguments steps).2.handedOut? = none →
    (followed host world arguments (steps + 1)).2.world.memory
      = (followed host world arguments steps).2.settled.memory
  /-- From then on it has given back that string exactly once, -/
  once : ∀ steps s, (followed host world arguments steps).2.handedOut? = some s →
    ∀ later, steps < later → (releases host world arguments later).count s = 1
  /-- and what it gave back stays released. -/
  stays : ∀ steps, ∀ s ∈ releases host world arguments steps,
    ((followed host world arguments steps).2.world.memory.string s).released = true

/-- The memory when a call has settled remembers the strings. -/
theorem remembers_settled (hcalled : CallsOnly host arguments Routine.Remembers) (world : World)
    (steps : Nat) :
    (followed host world arguments steps).2.world.memory.Remembers
      (followed host world arguments steps).2.settled.memory := by
  rw [settled]
  cases hcall : (followed host world arguments steps).2.call? with
  | none => exact .refl _
  | some call =>
    obtain ⟨c, values, line⟩ := call
    obtain ⟨i, r, hparse, hcalls⟩ := call?_followed hcall
    exact Callable.remembers_callAndWait (hcalled hparse hcalls) values _

/-- **No string is given back twice**, and all of them stay released. -/
theorem releases_nodup (hcalled : CallsOnly host arguments Routine.Remembers) (steps : Nat) :
    (releases host world arguments steps).Nodup
      ∧ ∀ s ∈ releases host world arguments steps,
        (followed host world arguments steps).2.world.memory.Knows s
          ∧ ((followed host world arguments steps).2.world.memory.string s).released = true := by
  induction steps with
  | zero => exact ⟨List.nodup_nil, nofun⟩
  | succ steps ih =>
    obtain ⟨hnodup, hreleased⟩ := ih
    have hremembers := remembers_settled hcalled world steps
    rw [releases_succ, followed_succ]
    rcases memory_next (followed host world arguments steps).2 with
      ⟨hnone, hmemory⟩ | ⟨s, hsome, hlive, hmemory⟩
    · rw [hnone, Option.toList_none, List.append_nil, hmemory]
      refine ⟨hnodup, fun s hs => ?_⟩
      obtain ⟨hknows, hgone⟩ := hreleased s hs
      exact ⟨hremembers.knows s hknows, hremembers.released s hknows hgone⟩
    · have hafter := hremembers.trans (.perform _ (.release (some s)))
      rw [hsome, Option.toList_some, hmemory]
      constructor
      · -- A string that is handed out unreleased was not given back before.
        refine List.nodup_append.mpr ⟨hnodup, List.pairwise_singleton _ s, ?_⟩
        rintro s' hs' _ hs rfl
        obtain rfl := List.mem_singleton.mp hs
        obtain ⟨hknows, hgone⟩ := hreleased _ hs'
        rw [hremembers.released _ hknows hgone] at hlive
        exact Bool.noConfusion hlive
      · intro s' hs'
        rcases List.mem_append.mp hs' with hs' | hs'
        · obtain ⟨hknows, hgone⟩ := hreleased s' hs'
          exact ⟨hafter.knows s' hknows, hafter.released s' hknows hgone⟩
        · obtain rfl := List.mem_singleton.mp hs'
          exact released_releaseString hlive

/-- A step whose call settles as a string gives it back. -/
theorem givesBackAt_of_settles {settled : World} {v : Value}
    (hcall : (followed host world arguments steps).2.call? = some (c, values, line))
    (hreturned : c.call (followed host world arguments steps).2.world values = (settled, .ok v))
    (hsettles : v.Settles (.ok (.owned s))) (hlive : (settled.memory.string s).released = false) :
    GivesBackAt host world arguments steps settled line s := by
  have hsettled : c.callAndWait (followed host world arguments steps).2.world values
      = (settled, some (.ok (.owned s))) := by
    rw [Callable.callAndWait_of_ok hreturned, hsettles.settle_eq]
  obtain ⟨text, rest, htext, hlines, hmemory⟩ := next_of_handedOut hcall hsettled hlive
  refine ⟨?_, text, rest, htext, ?_, ?_⟩
  · rw [handedOut?, hcall]
    exact Callable.handedOut?_eq_some.mpr ⟨settled, hsettled, hlive⟩
  · rw [followed_succ, hlines]
  · rw [followed_succ, hmemory]

/-- **Runs give back what is handed out to them.** -/
theorem givesBack (hcalled : CallsOnly host arguments Routine.Remembers) (world : World) :
    GivesBack host world arguments where
  printed steps c values line settled v s hcall hreturned hsettles hlive :=
    givesBackAt_of_settles hcall hreturned hsettles hlive
  promised steps c values line settled s hcall hreturned hlive :=
    givesBackAt_of_settles hcall hreturned (.kept (.there trivial)) hlive
  untouched steps hnone := by
    rw [followed_succ]
    exact memory_next_of_none hnone
  once steps s hhanded later hlater := by
    have hmem : s ∈ releases host world arguments later :=
      List.mem_filterMap.mpr ⟨steps, List.mem_range.mpr hlater, hhanded⟩
    exact List.count_eq_one_of_mem (releases_nodup hcalled later).1 hmem
  stays steps s hs := ((releases_nodup hcalled steps).2 s hs).2

end Run

/-! ## Built-in routines -/

/-- A value that is itself neither an owned string nor an allocator. -/
def Value.IsDetached : Value → Prop
  | .owned _ => False
  | .allocator _ => False
  | _ => True

/-- **Arguments that are read from texts** are no strings with an owner and no allocators. -/
theorem ValueKind.isDetached_of_read {kind : ValueKind} {raw : Text} {v : Value}
    (h : kind.read raw = .ok v) : v.IsDetached := by
  cases kind with
  | number | integer | numberArray =>
    obtain ⟨x, -, rfl⟩ := map_eq_ok_iff.mp h
    trivial
  | boolean =>
    simp only [read] at h
    split at h
    · rw [← Except.ok.inj h]
      trivial
    · split at h
      · rw [← Except.ok.inj h]
        trivial
      · cases h
  | text | void | opaqueValue =>
    rw [← Except.ok.inj h]
    trivial

theorem Signature.isDetached_of_readArguments {s : Signature} {raw : List Text} {values : List Value}
    (h : s.readArguments raw = .ok values) : ∀ v ∈ values, v.IsDetached := by
  intro v hv
  obtain ⟨j, hj⟩ := List.mem_iff_getElem?.mp hv
  obtain ⟨t, hread⟩ := readArgument_of_readFrom h hj
  rw [readArgument_eq] at hread
  split at hread
  · exact ValueKind.isDetached_of_read hread
  · rw [← Except.ok.inj hread]
    trivial

/-- An argument that is missing is none either. -/
theorem isDetached_argument {values : List Value} (h : ∀ v ∈ values, v.IsDetached) (i : Nat) :
    (argument values i).IsDetached := by
  rw [argument]
  cases hv : values[i]? with
  | none => trivial
  | some v => exact h v (List.mem_of_getElem? hv)

namespace Builtin

variable {values : List Value} {c : Callable}

/-- **What a built-in routine does to a memory**: nothing, and then it hands out no string, or it makes
a string with the default allocator. -/
theorem act_cases (b : Builtin) (h : ∀ v ∈ values, v.IsDetached) (world : World) :
    (∃ ending : Completion, b.routine.act world values = (world.memory, ending)
        ∧ ∀ s, Value.settleEnding ending ≠ some (.ok (.owned s)))
      ∨ ∃ text, b.routine.act world values
        = Strings.createIn world.memory text Memory.defaultAllocator := by
  have hfirst := isDetached_argument h 0
  have hsecond := isDetached_argument h 1
  cases b with
  | sumOfSquares =>
    refine Or.inl ⟨_, rfl, fun s => ?_⟩
    dsimp only
    split <;> exact nofun
  | fibonacci =>
    refine Or.inl ⟨_, rfl, fun s => ?_⟩
    dsimp only
    rw [Fibonacci.value]
    split <;> exact nofun
  | createString =>
    simp only [routine, Strings.create]
    split
    · exact Or.inr ⟨_, rfl⟩
    · next hallocator =>
      rw [hallocator] at hsecond
      exact absurd hsecond id
    · exact Or.inl ⟨_, rfl, nofun⟩
    · exact Or.inl ⟨_, rfl, nofun⟩
  | freeString =>
    simp only [routine, Strings.free]
    split
    · next howned =>
      rw [howned] at hfirst
      exact absurd hfirst id
    · refine Or.inl ⟨_, rfl, fun s => ?_⟩
      split <;> exact nofun

/-- **They all remember strings**: they create one or release one, if they do anything. -/
theorem remembers (b : Builtin) : b.routine.Remembers := by
  refine Routine.remembers_of_run fun world values => ?_
  cases b with
  | sumOfSquares => exact ⟨[], rfl⟩
  | fibonacci => exact ⟨[], rfl⟩
  | createString =>
    simp only [routine, Strings.create]
    split
    · exact ⟨[.create _ _], rfl⟩
    · exact ⟨[.create _ _], rfl⟩
    · exact ⟨[], rfl⟩
    · exact ⟨[], rfl⟩
  | freeString =>
    simp only [routine, Strings.free]
    split
    · exact ⟨[.release (some _)], rfl⟩
    · exact ⟨[], rfl⟩

/-- A call that ends with no string in hand leaves the accounts to the routine. -/
theorem sameAccounts_of_none {world settled : World} {ending : Option Completion}
    (hcall : c.callAndWait world values = (settled, ending))
    (hending : ∀ s, ending ≠ some (.ok (.owned s)))
    (hsame : world.memory.SameAccounts settled.memory) (line : Text → Line) :
    world.memory.SameAccounts (c.present world values line).1.memory := by
  have hnone : c.handedOut? values world = none := by
    rw [Option.eq_none_iff_forall_ne_some]
    intro s hs
    obtain ⟨settled', hcall', -⟩ := Callable.handedOut?_eq_some.mp hs
    rw [hcall] at hcall'
    exact hending s (Prod.mk.inj hcall').2
  rw [Callable.memory_present_of_none hnone, hcall]
  exact hsame

/-- **No call of a built-in routine changes the accounts** once its result was printed and given back:
the only block that it takes is that of the string that it hands out. -/
theorem sameAccounts_present (b : Builtin) (hc : c.target = b.routine)
    (hvalues : ∀ v ∈ values, v.IsDetached) (world : World) (line : Text → Line) :
    world.memory.SameAccounts (c.present world values line).1.memory := by
  cases hadmitted : c.signature.admit values with
  | error refusal =>
    have hcall : c.callAndWait world values = (world, some (.error (c.refused refusal))) := by
      rw [Callable.callAndWait, Callable.call, hadmitted]
      rfl
    exact sameAccounts_of_none hcall (fun s hs => by cases hs) (.refl _) line
  | ok =>
    have hcall : ∀ {m : Memory} {ending : Completion}, b.routine.act world values = (m, ending) →
        c.callAndWait world values = (⟨m, world.calls + 1⟩, Value.settleEnding ending) := by
      intro m ending hact
      simp only [Callable.callAndWait, Callable.call, hadmitted, hc, Routine.call, hact]
    rcases b.act_cases hvalues world with ⟨ending, hact, hending⟩ | ⟨text, hact⟩
    · exact sameAccounts_of_none (hcall hact) hending (.refl _) line
    · rw [Strings.createIn] at hact
      cases hcreate : world.memory.createString text defaultAllocator with
      | mk m result =>
        rw [hcreate] at hact
        have hunmade : (∀ s, result ≠ .ok (some s)) → world.memory.SameAccounts m := by
          intro hnone
          have hsame : world.memory.SameAccounts
              (world.memory.createString text defaultAllocator).1 :=
            sameAccounts_unmade (by rw [hcreate]; exact hnone)
          rwa [hcreate] at hsame
        rcases result with fault | _ | s
        · exact sameAccounts_of_none (hcall hact) (fun s hs => by cases hs)
            (hunmade fun s hs => by cases hs) line
        · exact sameAccounts_of_none (hcall hact) (fun s hs => by cases hs)
            (hunmade fun s hs => by cases hs) line
        · -- The string is new, so the run has it in hand and releases it.
          have hlive : (m.string s).released = false := by
            obtain ⟨m₁, b, -, -, -, rfl, rfl⟩ := createString_some hcreate
            rw [string_written]
          obtain ⟨shown, ending, -, hpresent⟩ :=
            Callable.present_of_handedOut (hcall hact) hlive line
          rw [hpresent]
          exact sameAccounts_released hcreate

end Builtin

namespace Run

variable {host : Host} {world : World} {arguments : List Text}

/-- **A command line over the built-in libraries keeps all accounts**, at any time. -/
theorem sameAccounts_followed
    (hbuiltin : CallsOnly host arguments fun routine => ∃ b : Builtin, routine = b.routine)
    (world : World) (steps : Nat) :
    world.memory.SameAccounts (followed host world arguments steps).2.world.memory := by
  induction steps with
  | zero =>
    have hstart : (followed host world arguments 0).2.world = world := by
      simp only [followed, complete, start]
      split <;> rfl
    rw [hstart]
    exact .refl _
  | succ steps ih =>
    rw [followed_succ]
    refine ih.trans ?_
    cases hcall : (followed host world arguments steps).2.call? with
    | none =>
      rw [(next_of_call?_none hcall).2]
      exact .refl _
    | some call =>
      obtain ⟨c, values, line⟩ := call
      obtain ⟨i, r, hparse, hcalls⟩ := call?_followed hcall
      obtain ⟨b, hb⟩ := hbuiltin hparse hcalls
      obtain ⟨left, hnext⟩ := next_of_call? hcall
      rw [hnext, world_after]
      exact b.sameAccounts_present hb (Signature.isDetached_of_readArguments hcalls.read) _ line

/-- **Runs leak nothing.** A command line over the built-in libraries, whatever function and arguments
it has and however it ends, leaves every allocator with the blocks and the bytes that it had before, at
the end and after every step. More generally, whatever routines a command line calls, a string that one
of them hands out unreleased is printed and then released, and that happens once; the routines are only
asked to leave released strings released. -/
theorem leaks_nothing (host : Host) (world : World) (arguments : List Text) :
    (CallsOnly host arguments (fun routine => ∃ b : Builtin, routine = b.routine) →
        ∀ steps a, (followed host world arguments steps).2.world.memory.liveBlocks a
            = world.memory.liveBlocks a
          ∧ (followed host world arguments steps).2.world.memory.liveBytes a
            = world.memory.liveBytes a)
      ∧ (CallsOnly host arguments Routine.Remembers → GivesBack host world arguments) := by
  refine ⟨fun hbuiltin steps a => ?_, fun hcalled => givesBack hcalled world⟩
  have hsame := sameAccounts_followed hbuiltin world steps
  exact ⟨congrArg List.length (hsame.live a), hsame.bytes a⟩

end Run

/-! ## Hosts with built-in libraries -/

/-- What a command line calls is what a module hands out that its host loads. -/
theorem Invocation.Calls.handedOut {host : Host} {i : Invocation} {r : Registry} {c : Callable}
    {values : List Value} (h : i.Calls host r c values) :
    ∃ path exports name, host.load path = .ok exports ∧ (name, .routine c.target) ∈ exports := by
  have hloaded := h.loaded
  rw [Invocation.registry] at hloaded
  cases hopened : Registry.opened host (some i.libraryPath) i.settingsPath i.skipCheck with
  | error fault =>
    rw [hopened] at hloaded
    cases hloaded
  | ok before =>
    simp only [hopened, Registry.add_eq] at hloaded
    cases hfind : before.find host i.library with
    | error fault =>
      simp only [hfind] at hloaded
      cases hloaded
    | ok library =>
      simp only [hfind] at hloaded
      -- The library is the one that was added last, so it is the one that is looked up.
      obtain rfl : before.including i.library library = r := Except.ok.inj hloaded
      have hfound := h.found
      have hlookup : (before.including i.library library).library i.library = .ok library := by
        simp [Registry.library, Registry.including]
      rw [Registry.callable, hlookup] at hfound
      obtain ⟨-, -, hexport⟩ := Registry.callableIn_eq_ok_iff.mp hfound
      obtain ⟨front, back, hsplit, -⟩ := List.lookup_eq_some_iff.mp hexport
      refine ⟨library.modulePath, library.exports, i.function.getD [],
        (isAsFound_of_find hfind).loaded, ?_⟩
      rw [hsplit]
      exact List.mem_append_right _ List.mem_cons_self

/-- **Where all modules hand out built-in routines**, every command line calls only those. -/
theorem Run.callsOnly_of_load {host : Host}
    (hload : ∀ path exports, host.load path = .ok exports →
      ∀ name routine, (name, .routine routine) ∈ exports → ∃ b : Builtin, routine = b.routine)
    (arguments : List Text) :
    CallsOnly host arguments fun routine => ∃ b : Builtin, routine = b.routine := by
  intro i r c values _ hcalls
  obtain ⟨path, exports, name, hexports, hmem⟩ := hcalls.handedOut
  exact hload path exports hexports name c.target hmem

/-- The smallest host hands out nothing else. -/
theorem Run.callsOnly_smallest (arguments : List Text) :
    CallsOnly .smallest arguments fun routine => ∃ b : Builtin, routine = b.routine := by
  refine callsOnly_of_load (fun path exports hload name routine hmem => ?_) arguments
  simp only [Host.smallest] at hload
  split at hload
  · rw [← Except.ok.inj hload] at hmem
    simp only [InstalledFile.routines, List.map_cons, List.map_nil, List.mem_cons, Prod.mk.injEq,
      Export.routine.injEq, List.not_mem_nil, or_false] at hmem
    rcases hmem with ⟨-, rfl⟩ | ⟨-, rfl⟩
    · exact ⟨.createString, rfl⟩
    · exact ⟨.freeString, rfl⟩
  · rw [← Except.ok.inj hload] at hmem
    exact absurd hmem List.not_mem_nil

/-- **A string that a new process makes** is printed and given back by the first step, which leaves
nothing live. -/
theorem Run.leaks_nothing_smallest :
    (followed .smallest .initial (createArguments "hi") 1).2.world.memory.liveBlocks
        defaultAllocator = 0
      ∧ (followed .smallest .initial (createArguments "hi") 1).2.world.memory.liveBytes
        defaultAllocator = 0
      ∧ releases .smallest .initial (createArguments "hi") 1 = [⟨0⟩]
      ∧ ∃ rest, (followed .smallest .initial (createArguments "hi") 1).1 = .output "hi" :: rest := by
  obtain ⟨haccounts, hgives⟩ := leaks_nothing .smallest .initial (createArguments "hi")
  have hcalls := callsOnly_smallest (createArguments "hi")
  have hremembers : CallsOnly .smallest (createArguments "hi") Routine.Remembers := by
    intro i r c values hparse hcall
    obtain ⟨b, hb⟩ := hcalls hparse hcall
    rw [hb]
    exact b.remembers
  have hstart : followed .smallest .initial (createArguments "hi") 0
      = ([], ⟨.initial, .inl (.call Strings.createCallable [.text "hi"])⟩) := by
    rw [followed, start, prepare_createString offersStrings_smallest]
    rfl
  have hcreated : Strings.createIn Memory.initial "hi" defaultAllocator
      = ((Memory.initial.createString "hi" defaultAllocator).1, .ok (.owned ⟨0⟩)) := rfl
  obtain ⟨hblocks, hbytes⟩ := haccounts hcalls 1 defaultAllocator
  obtain ⟨hhanded, text, rest, htext, hlines, -⟩ := (hgives hremembers).printed 0
    Strings.createCallable [.text "hi"] .output
    ⟨(Memory.initial.createString "hi" defaultAllocator).1, 1⟩ (.owned ⟨0⟩) ⟨0⟩
    (by rw [hstart]; rfl) (by rw [hstart, call_createString, World.initial, hcreated])
    (.there trivial) rfl
  obtain rfl : text = "hi" := Except.ok.inj (htext.symm.trans rfl)
  refine ⟨hblocks, hbytes, ?_, rest, ?_⟩
  · rw [releases_succ, hhanded]
    rfl
  · rw [hlines, hstart, List.nil_append]

end Turnstile
