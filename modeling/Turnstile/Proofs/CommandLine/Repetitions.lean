import Mathlib.Data.List.Nodup
import Turnstile.Proofs.CommandLine.Reports

/-! # How a profiled run counts its calls

A profiled run counts its calls up by one and compares the counter with the number of repetitions, which
may be any positive whole number. The counter gets as far as `2 ^ 53` and no further. So a run that is
asked for more calls numbers them up to there, gives all that follow the last number, and does not end
unless one of them fails.

* **`Run.isUnfinished_complete`** is what stays true of a run with more repetitions than `2 ^ 53`,
  whatever its calls come to.
* **`Run.profileLine_inj`** tells the lines of different calls apart.
* **`Run.counts_calls`** puts all of this together. -/

namespace Turnstile

namespace Callable

variable {c : Callable} {values : List Value} {world : World} {text : Text}

/-- Its arguments are admitted. -/
theorem Succeeds.admitted (h : c.Succeeds values world text) : c.signature.admit values = .ok () := by
  cases hadmit : c.signature.admit values with
  | ok => rfl
  | error refusal =>
    have hrefused := comesTo_iff.mp (comesTo_refused hadmit world).1
    rw [comesTo_iff.mp h.shown] at hrefused
    cases hrefused

/-- Calls that succeed are counted. -/
theorem calls_of_succeeds {calls : Nat} {texts : Nat → Text}
    (h : ∀ j < calls, c.Succeeds values (c.worldAfter values world j) (texts j)) :
    (c.worldAfter values world calls).calls = world.calls + calls := by
  cases calls with
  | zero => rfl
  | succ calls => exact calls_worldAfter (h 0 (Nat.succ_pos calls)).admitted world (calls + 1)

end Callable

namespace Run

variable {c : Callable} {values : List Value} {world : World} {text : Text} {repetitions : Number}
  {count m n : Nat}

/-! ## The numbers of the lines -/

/-- The number at the beginning of a text is where its digits end. -/
theorem takeWhile_isDigit (n : Nat) (text : Text) :
    (Text.ofNat n ++ ": " ++ text).takeWhile Text.isDigit = Text.ofNat n := by
  have hdigits : ∀ u ∈ Text.ofNat n, Text.isDigit u = true :=
    fun u hu => Text.isDigit_of_mem_ofNat n hu
  have hcolon : ((": " : Text) ++ text).takeWhile Text.isDigit = [] := rfl
  rw [List.append_assoc, List.takeWhile_append_of_pos hdigits, hcolon, List.append_nil]

/-- **Lines with different numbers are different**, whatever the calls come to. -/
theorem profileLine_inj {other : Text} (h : profileLine m text = profileLine n other) : m = n := by
  rw [profileLine, profileLine, Text.ofString_toString, Text.ofString_toString, Line.timed.injEq] at h
  simp only [List.append_assoc, List.append_cancel_left_eq] at h
  have hnumber : Text.ofNat m = Text.ofNat n := by
    rw [← takeWhile_isDigit m text, ← takeWhile_isDigit n other, List.append_assoc, List.append_assoc,
      h]
  have hread := congrArg (Text.nat? 10) hnumber
  rw [Text.nat?_ofNat, Text.nat?_ofNat] at hread
  exact Option.some.inj hread

/-- So no line is written twice as long as the numbers are those of the calls. -/
theorem nodup_profileLines (texts : Nat → Text) (calls : Nat) : (profileLines texts calls).Nodup := by
  refine List.Nodup.map_on ?_ List.nodup_range
  intro j _ k _ h
  exact Nat.succ.inj (profileLine_inj h)

/-! ## More repetitions than are counted -/

/-- A profiled run with some calls made, and any number of repetitions. -/
def counting (c : Callable) (values : List Value) (world : World) (made : Nat)
    (repetitions : Number) : Run :=
  ⟨c.worldAfter values world made, .inl (.profile c values (.ofNat (counter made)) repetitions)⟩

/-- **A run that is not done**: it has calls to make, or one of them has not succeeded. -/
inductive IsUnfinished (c : Callable) (values : List Value) (repetitions : Number) : Run → Prop where
  | going (world : World) (m : Nat) :
    IsUnfinished c values repetitions
      ⟨world, .inl (.profile c values (.ofNat (counter m)) repetitions)⟩
  | ended (world : World) {ending : Ending} (fails : ∀ code, ending = .exited code → code = 1) :
    IsUnfinished c values repetitions ⟨world, .inr ending⟩

/-- A value that is caught does not end a run well. -/
theorem code_of_caught {thrown : Value} {code : Nat} (h : (caught thrown).2 = .exited code) :
    code = 1 := by
  cases hsaid : thrown.complaint with
  | ok said =>
    rw [caught_of_ok hsaid] at h
    exact (Ending.exited.inj h).symm
  | error next =>
    rw [caught_of_error hsaid] at h
    cases h

/-- The counter never gets to such a number of repetitions: a step leaves the run undone, -/
theorem isUnfinished_next (hcount : repetitions.toInt? = some (count : Int)) (hmany : 2 ^ 53 < count)
    (world : World) (m : Nat) :
    IsUnfinished c values repetitions
      (next ⟨world, .inl (.profile c values (.ofNat (counter m)) repetitions)⟩).2 := by
  rw [next_of_counter hcount ((counter_le m).trans_lt hmany)]
  generalize c.present world values _ = presented
  obtain ⟨world', lines, _ | thrown | _⟩ := presented
  · exact .ended world' nofun
  · exact .ended world' fun _ hcaught => code_of_caught hcaught
  · exact .going world' (m + 1)

/-- **and so does every number of steps.** -/
theorem isUnfinished_complete (hcount : repetitions.toInt? = some (count : Int))
    (hmany : 2 ^ 53 < count) {r : Run} (h : IsUnfinished c values repetitions r) (steps : Nat) :
    IsUnfinished c values repetitions (r.complete steps).2 := by
  induction steps generalizing r with
  | zero => exact h
  | succ steps ih =>
    cases h with
    | going world m =>
      have hnext : IsUnfinished c values _ _ := isUnfinished_next hcount hmany world m
      rcases hstep : next ⟨world, .inl (.profile c values (.ofNat (counter m)) repetitions)⟩
        with ⟨lines, r⟩
      rw [hstep] at hnext
      rw [complete_snd_of_next hstep]
      exact ih hnext
    | ended world fails =>
      rw [complete_ended]
      exact .ended world fails

/-- A run that is not done has no code but that of a failure. -/
theorem IsUnfinished.code_eq {r : Run} {code : Nat} (h : IsUnfinished c values repetitions r)
    (hcode : r.code? = some code) : code = 1 := by
  cases h with
  | going => cases hcode
  | @ended world ending fails =>
    cases ending with
    | exited other => exact fails code (congrArg Ending.exited (Option.some.inj hcode))
    | threw | waiting => cases hcode

/-! ## Whole runs -/

variable {host : Host} {arguments : List Text} {i : Invocation} {r : Registry}

/-- The turns of a profiled run. -/
theorem turn_of_profile (hprofile : i.profile = true) (world : World) (made : Nat) :
    turn i c values world made = counting c values world made i.repetitions := by
  rw [turn, Invocation.taskLeft, if_pos hprofile, counting]

/-- **How a profiled run counts its calls.** -/
structure CountsCalls (host : Host) (world : World) (arguments : List Text) (i : Invocation)
    (r : Registry) (c : Callable) (values : List Value) (count : Nat) : Prop where
  /-- Each call that succeeds is one step. It writes a line with its number, and the counter moves on,
  both as far as `2 ^ 53`. -/
  turns : ∀ (texts : Nat → Text) (steps : Nat), steps ≤ count ∨ 2 ^ 53 < count →
    (∀ j < steps, c.Succeeds values (c.worldAfter values world j) (texts j)) →
    followed host world arguments steps
        = (i.linesBefore r ++ countedLines texts steps, counting c values world steps i.repetitions)
      ∧ (c.worldAfter values world steps).calls = world.calls + steps
  /-- Up to `2 ^ 53` calls, the run ends behind the last one, and the lines are numbered from one on
  without a number twice. -/
  ends : count ≤ 2 ^ 53 → ∀ texts : Nat → Text,
    (∀ j < count, c.Succeeds values (c.worldAfter values world j) (texts j)) →
    followed host world arguments (count + 1)
        = (i.linesBefore r ++ profileLines texts count,
          ⟨c.worldAfter values world count, .inr (.exited 0)⟩)
      ∧ (profileLines texts count).Nodup
  /-- A run that is asked for more calls ends with one that fails, or not at all. -/
  endless : 2 ^ 53 < count → ∀ steps code,
    (followed host world arguments steps).2.code? = some code → code = 1

/-- **How many calls a profiled run makes.** The number of repetitions that it is given is a positive
whole number. If it is `2 ^ 53` at most and all calls succeed, the run makes that many and ends, and
the numbers of its lines go up to there from one. If it is more, the counter does not get to it: the
run does not end as long as its calls succeed, and from the call with the number `2 ^ 53` on all lines
have that number. -/
theorem counts_calls (hparse : Invocation.parse host.directory host.builtinPath arguments = .ok i)
    (h : i.Calls host r c values) (hprofile : i.profile = true) (world : World) :
    ∃ count : Nat, 1 ≤ count ∧ i.repetitions.toInt? = some (count : Int)
      ∧ CountsCalls host world arguments i r c values count := by
  obtain ⟨value, hvalue, hone⟩ := Invocation.isPositive_repetitions hparse
  obtain ⟨count, rfl⟩ := Int.eq_ofNat_of_zero_le (by omega : 0 ≤ value)
  have hasks : i.AsksFor count := .repeatedly hprofile hvalue
  refine ⟨count, by omega, hvalue, ?_⟩
  constructor
  · intro texts steps hsteps hsucceeds
    -- The counter is below the number of repetitions for as long, or for good.
    have hbelow : ∀ m < steps, counter m < count :=
      fun m hm => counter_lt_iff.mpr (hsteps.imp_left hm.trans_le)
    rw [followed_of_calls hparse h, complete_turn hasks hbelow hsucceeds,
      Invocation.resultLines_of_profile hprofile, turn_of_profile hprofile]
    exact ⟨rfl, Callable.calls_of_succeeds hsucceeds⟩
  · intro hfew texts hsucceeds
    -- Up to `2 ^ 53` the counter is the number of calls.
    rw [followed_of_calls hparse h, complete_turn_all hasks hfew hsucceeds (Nat.lt_succ_self count),
      Invocation.resultLines_of_profile hprofile, countedLines_eq texts hfew]
    exact ⟨rfl, nodup_profileLines texts count⟩
  · intro hmany steps code hcode
    have hstart : IsUnfinished c values i.repetitions (counting c values world 0 i.repetitions) :=
      .going _ 0
    rw [followed_of_calls hparse h, turn_of_profile hprofile] at hcode
    exact (isUnfinished_complete hvalue hmany hstart steps).code_eq hcode

end Run

/-! ## A routine that always works -/

/-- **A routine that always works.** -/
def Routine.steady : Routine := .returning fun _ => .text "up"

/-- The routine behind a signature without parameters. -/
def Callable.steady : Callable := ⟨"kit", ⟨"steady", [], "string", .text⟩, .steady⟩

/-- Every call of it succeeds. -/
theorem Callable.succeeds_steady (world : World) : steady.Succeeds [] world "up" := by
  have hread : steady.signature.readArguments [] = .ok [] := rfl
  have hcall : steady.call world [] = (⟨world.memory, world.calls + 1⟩, .ok (.text "up")) := by
    rw [call, Signature.admit_readArguments hread]
    rfl
  constructor
  · exact .shown hcall (.there trivial) rfl
  · intro world' v s hother hsettles
    rw [hcall, Prod.mk.injEq, Except.ok.injEq] at hother
    rw [← hother.2] at hsettles
    cases hsettles

/-- A host with the routine. -/
def Host.steady : Host := .offering [Callable.steady.signature] [("steady", .routine .steady)]

namespace Invocation

theorem parse_steady {value : Text} {repetitions : Number} (hread : Numeral.number value = repetitions)
    (hpositive : IsPositive repetitions) :
    parse Host.steady.directory Host.steady.builtinPath ["kit", "steady", "--profile", "-n", value]
      = .ok (profiled "steady" repetitions) :=
  parse_profiled (by decide) rfl hread hpositive

theorem calls_steady (repetitions : Number) :
    (profiled "steady" repetitions).Calls .steady
      ⟨"/lib", .strict, false,
        [("kit", Host.kit [Callable.steady.signature] [("steady", .routine .steady)])]⟩
      .steady [] :=
  calls_profiled .steady rfl rfl repetitions

end Invocation

namespace Run

/-- Asked for three times, the routine is called three times. -/
theorem counts_calls_steady :
    ∃ r, followed .steady .initial ["kit", "steady", "--profile", "-n", "3"] 4
        = ([.timed "Run 1: up", .timed "Run 2: up", .timed "Run 3: up"], r)
      ∧ r.code? = some 0 ∧ r.world.calls = 3 := by
  have hdigits : toString 3 = "3" := by decide
  obtain ⟨three, hread, hthree⟩ :=
    Invocation.exists_repetitions hdigits (Number.toInt?_ofNat (by decide))
  obtain ⟨count, -, hcount, hcounts⟩ := counts_calls
    (Invocation.parse_steady hread ⟨3, hthree, by decide⟩) (Invocation.calls_steady three) rfl .initial
  obtain rfl : count = 3 := Int.ofNat.inj (Option.some.inj (hcount.symm.trans hthree))
  have hsucceeds := Callable.succeeds_steady
  obtain ⟨hends, -⟩ := hcounts.ends (by decide) (fun _ => "up") fun j _ => hsucceeds _
  obtain ⟨-, hcounted⟩ := hcounts.turns (fun _ => "up") 3 (.inl le_rfl) fun j _ => hsucceeds _
  exact ⟨_, hends.trans rfl, rfl, hcounted⟩

/-- **A number of repetitions that a counter does not get to**: `2 ^ 53 + 2` is accepted and all calls
succeed, and yet the run does not end. -/
theorem endless_repetitions :
    ∃ i r, Invocation.parse Host.steady.directory Host.steady.builtinPath
          ["kit", "steady", "--profile", "-n", "9007199254740994"] = .ok i
      ∧ i.Calls .steady r .steady [] ∧ i.profile = true
      ∧ i.repetitions.toInt? = some 9007199254740994
      ∧ (∀ world, Callable.steady.Succeeds [] world "up")
      ∧ ∀ steps, (followed .steady .initial
            ["kit", "steady", "--profile", "-n", "9007199254740994"] steps).2.code? = none := by
  have hdigits : toString (2 ^ 53 + 2) = "9007199254740994" := by decide
  have hexact : (Number.ofNat (2 ^ 53 + 2)).toInt? = some ((2 ^ 53 + 2 : Nat) : Int) := by
    have heven : 2 ^ 53 + 2 = (2 ^ 52 + 1) * 2 ^ 1 := by decide
    refine Number.toInt?_ofNat_of_isRepresentable ?_
    rw [heven]
    exact Number.isRepresentable_mul_two_pow (by decide) (by decide)
  obtain ⟨many, hread, hmany⟩ := Invocation.exists_repetitions hdigits hexact
  have hparse := Invocation.parse_steady hread ⟨_, hmany, by decide⟩
  have hcalls := Invocation.calls_steady many
  refine ⟨_, _, hparse, hcalls, rfl, hmany, Callable.succeeds_steady, fun steps => ?_⟩
  have hasks : (Invocation.profiled "steady" many).AsksFor (2 ^ 53 + 2) := .repeatedly rfl hmany
  have hbelow : ∀ m < steps, counter m < 2 ^ 53 + 2 :=
    fun m _ => counter_lt_iff.mpr (Or.inr (by decide))
  have hfollowed := followed_of_calls hparse hcalls .initial steps
  rw [complete_turn hasks hbelow fun m _ => Callable.succeeds_steady _] at hfollowed
  exact congrArg (fun followed => followed.2.code?) hfollowed

end Run

end Turnstile
