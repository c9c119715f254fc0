import Turnstile.Proofs.CommandLine.Outcomes
import Turnstile.Proofs.CommandLine.Steps
import Turnstile.Proofs.Number.Counting
import Turnstile.Proofs.Number.WholeText

/-! # The calls of a run, one after the other

A run makes one call, or it makes calls until their number is reached. Both are told in the same way:
every call is a turn of its own, and the first one that does not succeed ends the run.

* **`Invocation.AsksFor`** is the number of calls that an invocation asks for; **`Run.counter`** is how
  far they are counted.
* **`Invocation.resultLine`** is the line of a call, and **`Invocation.taskLeft`** is what is left
  to do behind it.
* **`Run.next_taskLeft`** is a turn. **`Run.complete_turn`** follows a run over calls that succeed, and
  **`Run.complete_turn_ended`** to its end behind them.
* **`Run.exists_ending`** says that runs end, if they are asked for no more calls than numbers count. -/

namespace Turnstile

namespace Run

variable {c : Callable} {values : List Value} {world : World} {count m : Nat} {repetitions : Number}

/-! ## Counters -/

/-- Where the counter is after a number of calls. -/
def counter (calls : Nat) : Nat := min calls (2 ^ 53)

theorem counter_eq (h : m ≤ 2 ^ 53) : counter m = m := Nat.min_eq_left h

theorem counter_le (calls : Nat) : counter calls ≤ 2 ^ 53 := Nat.min_le_right _ _

/-- It is below a number for as many calls, and for good below one that it does not get to. -/
theorem counter_lt_iff : counter m < count ↔ m < count ∨ 2 ^ 53 < count := min_lt_iff

/-- The line of a profiled call, told apart by its number. -/
def profileLine (number : Nat) (text : Text) : Line :=
  .timed ("Run " ++ Text.ofString (toString number) ++ ": " ++ text)

/-- The lines of the first calls. -/
def profileLines (texts : Nat → Text) (calls : Nat) : List Line :=
  (List.range calls).map fun j => profileLine (j + 1) (texts j)

/-- The lines of the first calls, each with the counter behind it. -/
def countedLines (texts : Nat → Text) (calls : Nat) : List Line :=
  (List.range calls).map fun j => profileLine (counter (j + 1)) (texts j)

theorem countedLines_eq (texts : Nat → Text) (hm : m ≤ 2 ^ 53) :
    countedLines texts m = profileLines texts m := by
  refine List.map_congr_left fun j hj => ?_
  rw [counter_eq (Nat.succ_le_of_lt (List.mem_range.mp hj) |>.trans hm)]

theorem label_ofNat (hm : m ≤ 2 ^ 53) (text : Text) :
    Line.timed (label (.ofNat m) ++ text) = profileLine m text := by
  rw [label, Number.toText_ofNat hm, profileLine, Text.ofString_toString]

/-- The counter is compared with the number of repetitions as whole numbers are. -/
theorem lt_repetitions (hcount : repetitions.toInt? = some (count : Int)) (hm : m ≤ 2 ^ 53) :
    (Number.ofNat m).lt repetitions = decide (m < count) := by
  rw [Number.lt_of_toInt? (Number.toInt?_ofNat hm) hcount, decide_eq_decide, Int.ofNat_lt]

/-- The next step of a profiled run, for any two numbers. -/
theorem next_profile (world : World) (made repetitions : Number) :
    next ⟨world, .inl (.profile c values made repetitions)⟩
      = if made.lt repetitions then
          after (c.present world values fun text => .timed (label (made.add 1) ++ text))
            (.profile c values (made.add 1) repetitions)
        else ([], ⟨world, .inr (.exited 0)⟩) := rfl

/-- The call that is next while the counter is below the number of repetitions. -/
theorem next_of_counter (hcount : repetitions.toInt? = some (count : Int)) (hm : counter m < count)
    (world : World) :
    next ⟨world, .inl (.profile c values (.ofNat (counter m)) repetitions)⟩
      = after (c.present world values fun text => profileLine (counter (m + 1)) text)
          (.profile c values (.ofNat (counter (m + 1))) repetitions) := by
  have hadd : (Number.ofNat (counter m)).add 1 = .ofNat (counter (m + 1)) := Number.add_one_counter m
  rw [next_profile, lt_repetitions hcount (counter_le m), decide_eq_true hm, if_pos rfl, hadd]
  simp only [label_ofNat (counter_le (m + 1))]

end Run

/-! ## Calls that are asked for -/

namespace Invocation

variable {i : Invocation} {c : Callable} {values : List Value} {count calls : Nat}

/-- **The number of calls that an invocation asks for**: one, unless the function is profiled. -/
inductive AsksFor (i : Invocation) : Nat → Prop where
  | once (plain : i.profile = false) : AsksFor i 1
  | repeatedly {count : Nat} (profiled : i.profile = true)
      (repetitions : i.repetitions.toInt? = some (count : Int)) : AsksFor i count

/-- **The line of a call**: its text, or a line with its number. -/
def resultLine (i : Invocation) (number : Nat) (text : Text) : Line :=
  if i.profile then Run.profileLine (Run.counter number) text else .output text

/-- The lines of the first calls. -/
def resultLines (i : Invocation) (texts : Nat → Text) (calls : Nat) : List Line :=
  (List.range calls).map fun j => i.resultLine (j + 1) (texts j)

/-- **What is left to do** when a number of calls was made. -/
def taskLeft (i : Invocation) (c : Callable) (values : List Value) (made : Nat) : Task :=
  if i.profile then .profile c values (.ofNat (Run.counter made)) i.repetitions
  else if made = 0 then .call c values else .nothing

theorem taskLeft_zero (i : Invocation) (c : Callable) (values : List Value) :
    i.taskLeft c values 0 = i.task c values := by
  rw [taskLeft, task, if_pos rfl, Run.counter_eq (Nat.zero_le _), Number.zero_eq]

theorem resultLines_succ (i : Invocation) (texts : Nat → Text) (calls : Nat) :
    i.resultLines texts (calls + 1) = i.resultLines texts calls
      ++ [i.resultLine (calls + 1) (texts calls)] := by
  rw [resultLines, List.range_succ, List.map_append]
  rfl

/-- Profiled calls are numbered. -/
theorem resultLines_of_profile (hprofile : i.profile = true) (texts : Nat → Text) (calls : Nat) :
    i.resultLines texts calls = Run.countedLines texts calls := by
  refine List.map_congr_left fun j _ => ?_
  rw [resultLine, if_pos hprofile]

end Invocation

namespace Run

variable {i : Invocation} {c : Callable} {values : List Value} {world world' : World} {count k m : Nat}
  {steps : Nat} {text : Text} {texts : Nat → Text} {thrown : Value}
  {lines : List Line} {ending : Ending}

/-! ## Turns -/

theorem after_ok (world : World) (lines : List Line) (left : Task) :
    after (world, lines, some (.ok ())) left = (lines, ⟨world, .inl left⟩) := rfl

/-- **A turn**: one call is presented as long as there are calls left. -/
theorem next_taskLeft (c : Callable) (values : List Value) (hasks : i.AsksFor count)
    (hm : counter m < count) (world : World) :
    next ⟨world, .inl (i.taskLeft c values m)⟩
      = after (c.present world values (i.resultLine (m + 1))) (i.taskLeft c values (m + 1)) := by
  cases hasks with
  | once plain =>
    obtain rfl : m = 0 := by
      rcases counter_lt_iff.mp hm with hm | hmany
      · exact Nat.lt_one_iff.mp hm
      · exact absurd hmany (by decide)
    have hline : i.resultLine (0 + 1) = .output := by
      funext text
      rw [Invocation.resultLine, plain, if_neg Bool.false_ne_true]
    simp only [Invocation.taskLeft, plain, Bool.false_eq_true, if_false, if_true, hline]
    rfl
  | repeatedly profiled repetitions =>
    have hline : i.resultLine (m + 1) = profileLine (counter (m + 1)) := by
      funext text
      rw [Invocation.resultLine, if_pos profiled]
    simp only [Invocation.taskLeft, if_pos profiled, hline]
    exact next_of_counter repetitions hm world

/-- The step behind the last call. -/
theorem next_taskLeft_done (c : Callable) (values : List Value) (hasks : i.AsksFor count)
    (hcount : count ≤ 2 ^ 53) (world : World) :
    next ⟨world, .inl (i.taskLeft c values count)⟩ = ([], ⟨world, .inr (.exited 0)⟩) := by
  cases hasks with
  | once plain =>
    simp only [Invocation.taskLeft, plain, Bool.false_eq_true, if_false, Nat.one_ne_zero]
    rfl
  | repeatedly profiled repetitions =>
    have hlt : (Number.ofNat count).lt i.repetitions = false := by
      rw [lt_repetitions repetitions hcount, decide_eq_false (Nat.lt_irrefl count)]
    rw [Invocation.taskLeft, if_pos profiled, counter_eq hcount, next_profile, hlt,
      if_neg Bool.false_ne_true]

/-- A run with some calls made. -/
def turn (i : Invocation) (c : Callable) (values : List Value) (world : World) (made : Nat) : Run :=
  ⟨c.worldAfter values world made, .inl (i.taskLeft c values made)⟩

/-- **A turn whose call succeeds** writes its line. -/
theorem next_turn_of_succeeds (hasks : i.AsksFor count) (hm : counter m < count)
    (h : c.Succeeds values (c.worldAfter values world m) text) :
    next (turn i c values world m) = ([i.resultLine (m + 1) text], turn i c values world (m + 1)) := by
  rw [turn, next_taskLeft c values hasks hm, Callable.present_of_succeeds h, after_ok]
  rfl

/-- **Calls that succeed** write their lines one after the other. -/
theorem complete_turn (hasks : i.AsksFor count) (hk : ∀ m < k, counter m < count)
    (h : ∀ j < k, c.Succeeds values (c.worldAfter values world j) (texts j)) :
    complete (turn i c values world 0) k = (i.resultLines texts k, turn i c values world k) := by
  -- The induction is on the calls that were made: the last one is a single step.
  induction k with
  | zero => rfl
  | succ k ih =>
    have hbefore := ih (fun m hm => hk m (Nat.lt_succ_of_lt hm)) fun m hm =>
      h m (Nat.lt_succ_of_lt hm)
    have hlast := next_turn_of_succeeds hasks (hk k (Nat.lt_succ_self k)) (h k (Nat.lt_succ_self k))
    have hstep : complete (turn i c values world k) 1
        = ([i.resultLine (k + 1) (texts k)], turn i c values world (k + 1)) := by
      rw [turn, complete_succ, ← turn, hlast]
      rfl
    rw [complete_add, hbefore, hstep, Invocation.resultLines_succ]

/-- **A run that ends behind them** is at its end however long it is followed. -/
theorem complete_turn_ended (hasks : i.AsksFor count) (hk : ∀ m < k, counter m < count)
    (h : ∀ j < k, c.Succeeds values (c.worldAfter values world j) (texts j))
    (hlast : next (turn i c values world k) = (lines, ⟨world', .inr ending⟩)) (hsteps : k < steps) :
    complete (turn i c values world 0) steps
      = (i.resultLines texts k ++ lines, ⟨world', .inr ending⟩) := by
  obtain ⟨rest, rfl⟩ : ∃ rest, steps = k + (rest + 1) := ⟨steps - k - 1, by omega⟩
  rw [complete_add, complete_turn hasks hk h]
  simp only
  rw [turn, complete_succ, ← turn, hlast, complete_ended, List.append_nil]

/-- **When all calls succeed**, a run ends behind the last one. -/
theorem complete_turn_all (hasks : i.AsksFor count) (hcount : count ≤ 2 ^ 53)
    (h : ∀ j < count, c.Succeeds values (c.worldAfter values world j) (texts j))
    (hsteps : count < steps) :
    complete (turn i c values world 0) steps
      = (i.resultLines texts count, ⟨c.worldAfter values world count, .inr (.exited 0)⟩) := by
  have hdone := next_taskLeft_done c values hasks hcount (c.worldAfter values world count)
  have hended := complete_turn_ended hasks (fun m hm => counter_lt_iff.mpr (Or.inl hm)) h hdone hsteps
  rwa [List.append_nil] at hended

/-- What was caught is told with code `1`, if there are words for it. -/
theorem caught_of_ok {said : Text} (h : thrown.complaint = .ok said) :
    caught thrown = ([.ofComplaint said], .exited 1) := by
  rw [caught, h]

/-- If there are none, another value is thrown. -/
theorem caught_of_error {next : Value} (h : thrown.complaint = .error next) :
    caught thrown = ([], .threw next) := by
  rw [caught, h]

end Run

end Turnstile
