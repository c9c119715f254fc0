import Mathlib.Data.List.Basic
import Turnstile.Library.Session

/-! # What a session answers about its libraries

A session can add libraries, fail to add them, look for them somewhere else, ask about them and call
what they answered. The libraries that it answers from are exactly those of the additions that
succeeded, and of each name the last one.

* **`Registry.Change`** lists what a step can do to a registry, and **`perform_change`** says that
  there is nothing else.
* **`Session.additions`** records the libraries that a run adds, and **`loaded_run`** that nothing
  else is loaded.
* **`Session.answer`** is the answer to a question about the library of a name.
* **`Session.answers_from_last_addition`** puts together what a run does to the answers. -/

namespace Turnstile

/-! ## Registries -/

namespace Registry

variable {host : Host} {r : Registry} {name function : Text} {library : Library}

/-- A registry with a library more, which comes before all others. -/
def including (r : Registry) (name : Text) (library : Library) : Registry :=
  ⟨r.libraryPath, r.options, r.skipCheck, (name, library) :: r.loaded⟩

theorem add_eq (r : Registry) (host : Host) (name : Text) :
    r.add host name = (r.find host name).map (r.including name) := rfl

/-- A callable of a library is what the library says and what its module hands out. -/
theorem callableIn_eq_ok_iff {c : Callable} :
    callableIn library name function = .ok c
      ↔ c.library = name ∧ library.signatures.find? (·.name == function) = some c.signature
        ∧ library.exports.lookup function = some (.routine c.target) := by
  rw [callableIn]
  split
  · next signature target hsignature htarget =>
    rw [hsignature, htarget, Except.ok.injEq]
    constructor
    · rintro rfl
      exact ⟨rfl, rfl, rfl⟩
    · rintro ⟨rfl, hs, ht⟩
      rw [Option.some.inj hs, Export.routine.inj (Option.some.inj ht)]
  · next hnone => exact ⟨nofun, fun h => absurd h.2.2 (hnone _ _ h.2.1)⟩

/-- **What a step can do to a registry**: nothing, make it look somewhere else, or add a library that
it finds. -/
inductive Change (host : Host) (r : Registry) : Session.Step → Registry → Prop where
  /-- The registry stays as it was; if a library was to be added, it was not found. -/
  | keep (step : Session.Step)
      (notFound : ∀ name, step = .add name → ∃ fault, r.find host name = .error fault) :
    Change host r step r
  /-- The registry looks somewhere else. -/
  | move (path : Text) : Change host r (.setPath path) (r.setPath host path)
  /-- There is a library more. -/
  | add (name : Text) (library : Library) (found : r.find host name = .ok library) :
    Change host r (.add name) (r.including name library)

end Registry

namespace Session

variable {host : Host} {s start : Session} {name : Text} {library : Library}

/-- **There is nothing else that a step can do to the registry.** -/
theorem perform_change (host : Host) (s : Session) (step : Step) :
    Registry.Change host s.registry step (s.perform host step).1.registry := by
  cases step with
  | setPath path => exact .move path
  | add name =>
    cases hfind : s.registry.find host name with
    | error fault =>
      have hsame : (s.perform host (.add name)).1 = s := by
        rw [perform, Registry.add_eq, hfind]
        rfl
      rw [hsame]
      refine .keep _ fun other heq => ⟨fault, ?_⟩
      rw [← Step.add.inj heq, hfind]
    | ok library =>
      have hmore : (s.perform host (.add name)).1.registry = s.registry.including name library := by
        rw [perform, Registry.add_eq, hfind]
        rfl
      rw [hmore]
      exact .add name library hfind
  | functions library | callable library function | execute library function arguments
    | executeAndWait library function arguments =>
    rw [perform]
    split <;> exact .keep _ nofun
  | getPath | has library | call c arguments => exact .keep _ nofun

/-! ## The record of additions -/

/-- The library that a step adds, if it adds one. -/
def addition? (host : Host) (s : Session) : Step → Option (Text × Library)
  | .add name =>
    match s.registry.find host name with
    | .ok library => some (name, library)
    | .error _ => none
  | _ => none

/-- **The libraries that a run adds**, the last one first. -/
def additions (host : Host) (s : Session) : List Step → List (Text × Library)
  | [] => []
  | step :: rest => additions host (s.perform host step).1 rest ++ (addition? host s step).toList

/-- What a step adds comes before all that was loaded. -/
theorem loaded_perform (host : Host) (s : Session) (step : Step) :
    (s.perform host step).1.registry.loaded
      = (addition? host s step).toList ++ s.registry.loaded := by
  have hchange := perform_change host s step
  generalize (s.perform host step).1.registry = r at hchange
  cases hchange with
  | keep _ notFound =>
    cases step with
    | add name =>
      obtain ⟨fault, hfault⟩ := notFound name rfl
      rw [addition?, hfault]
      rfl
    | _ => rfl
  | move path => rfl
  | add name library found =>
    rw [addition?, found]
    rfl

theorem run_cons (host : Host) (s : Session) (step : Step) (rest : List Step) :
    (s.run host (step :: rest)).1 = ((s.perform host step).1.run host rest).1 := rfl

theorem run_append (host : Host) (s : Session) (first rest : List Step) :
    (s.run host (first ++ rest)).1 = ((s.run host first).1.run host rest).1 := by
  induction first generalizing s with
  | nil => rfl
  | cons step first ih => rw [List.cons_append, run_cons, run_cons, ih]

theorem additions_append (host : Host) (s : Session) (first rest : List Step) :
    additions host s (first ++ rest)
      = additions host (s.run host first).1 rest ++ additions host s first := by
  induction first generalizing s with
  | nil => rw [List.nil_append, additions, List.append_nil]; rfl
  | cons step first ih =>
    rw [List.cons_append, additions, additions, ih, run_cons, List.append_assoc]

/-- **Nothing is loaded but what was added.** -/
theorem loaded_run (host : Host) (s : Session) (steps : List Step) :
    (s.run host steps).1.registry.loaded = additions host s steps ++ s.registry.loaded := by
  induction steps generalizing s with
  | nil => rfl
  | cons step rest ih => rw [run_cons, ih, loaded_perform, additions, List.append_assoc]

/-! ## Additions that succeed -/

/-- Whether adding a library succeeds. -/
def Succeeds (host : Host) (s : Session) (name : Text) : Prop :=
  (s.perform host (.add name)).2 = .ok .done

/-- An addition succeeds when the library is found. -/
theorem succeeds_iff : s.Succeeds host name ↔ ∃ library, s.registry.find host name = .ok library := by
  rw [Succeeds, perform, Registry.add_eq]
  cases s.registry.find host name with
  | error fault => exact ⟨nofun, nofun⟩
  | ok library => exact ⟨fun _ => ⟨library, rfl⟩, fun _ => rfl⟩

/-- **A failing addition changes nothing at all.** -/
theorem perform_add_of_not_succeeds (h : ¬ s.Succeeds host name) :
    (s.perform host (.add name)).1 = s := by
  cases hfind : s.registry.find host name with
  | error fault =>
    rw [perform, Registry.add_eq, hfind]
    rfl
  | ok library => exact absurd (succeeds_iff.mpr ⟨library, hfind⟩) h

/-- **Some addition** of a library of a name succeeds in a run. -/
def WasAdded (host : Host) (start : Session) (steps : List Step) (name : Text) : Prop :=
  ∃ first rest, steps = first ++ .add name :: rest ∧ (start.run host first).1.Succeeds host name

/-- The steps of a run before and behind the **last addition** of a library of a name that
succeeds. -/
structure IsLastAddition (host : Host) (start : Session) (name : Text) (first rest : List Step) :
    Prop where
  succeeds : (start.run host first).1.Succeeds host name
  last : ¬ WasAdded host ((start.run host first).1.perform host (.add name)).1 rest name

theorem not_wasAdded_nil : ¬ WasAdded host start [] name := by
  rintro ⟨first, rest, hsplit, -⟩
  exact absurd hsplit.symm (by simp)

/-- The first step may add the library, or one of the others does. -/
theorem wasAdded_cons {step : Step} {rest : List Step} :
    WasAdded host start (step :: rest) name
      ↔ (step = .add name ∧ start.Succeeds host name)
        ∨ WasAdded host (start.perform host step).1 rest name := by
  constructor
  · rintro ⟨first, tail, hsplit, hsucceeds⟩
    cases first with
    | nil =>
      obtain ⟨rfl, -⟩ := List.cons.inj hsplit
      exact .inl ⟨rfl, hsucceeds⟩
    | cons other first =>
      obtain ⟨rfl, rfl⟩ := List.cons.inj hsplit
      exact .inr ⟨first, tail, rfl, hsucceeds⟩
  · rintro (⟨rfl, hsucceeds⟩ | ⟨first, tail, rfl, hsucceeds⟩)
    · exact ⟨[], rest, rfl, hsucceeds⟩
    · exact ⟨step :: first, tail, rfl, hsucceeds⟩

/-- Where an addition succeeds one of them is the last. -/
theorem WasAdded.exists_last {steps : List Step} (h : WasAdded host start steps name) :
    ∃ first rest, steps = first ++ .add name :: rest
      ∧ IsLastAddition host start name first rest := by
  induction steps generalizing start with
  | nil => exact absurd h not_wasAdded_nil
  | cons step steps ih =>
    by_cases hlater : WasAdded host (start.perform host step).1 steps name
    · obtain ⟨first, rest, rfl, hlast⟩ := ih hlater
      exact ⟨step :: first, rest, rfl, hlast.succeeds, hlast.last⟩
    · obtain ⟨rfl, hsucceeds⟩ := (wasAdded_cons.mp h).resolve_right hlater
      exact ⟨[], steps, rfl, hsucceeds, hlater⟩

/-- A step that does not add a library of a name puts none on record. -/
theorem lookup_addition?_eq_none_iff {step : Step} :
    (addition? host start step).toList.lookup name = none
      ↔ ¬ (step = .add name ∧ start.Succeeds host name) := by
  cases step with
  | add other =>
    rw [addition?, succeeds_iff]
    by_cases hname : other = name
    · subst hname
      cases start.registry.find host other with
      | error fault => simp
      | ok library => simp
    · have hother : (name == other) = false := beq_eq_false_iff_ne.mpr (Ne.symm hname)
      cases start.registry.find host other with
      | error fault => simp [hname]
      | ok library => simp [List.lookup_cons, hother, hname]
  | _ => simp [addition?]

/-- **A library of a name is on record when an addition of it succeeds.** -/
theorem lookup_additions_eq_none_iff (steps : List Step) :
    (additions host start steps).lookup name = none ↔ ¬ WasAdded host start steps name := by
  induction steps generalizing start with
  | nil => exact iff_of_true rfl not_wasAdded_nil
  | cons step rest ih =>
    rw [additions, List.lookup_append, Option.or_eq_none_iff, ih, lookup_addition?_eq_none_iff,
      wasAdded_cons, not_or, and_comm]

/-- **The library on record is that of the last addition.** -/
theorem lookup_additions_of_isLastAddition {first rest : List Step}
    (h : IsLastAddition host start name first rest)
    (hfind : (start.run host first).1.registry.find host name = .ok library) :
    (additions host start (first ++ .add name :: rest)).lookup name = some library := by
  have hadded : addition? host (start.run host first).1 (.add name) = some (name, library) := by
    rw [addition?, hfind]
  rw [additions_append, List.lookup_append, additions, List.lookup_append,
    (lookup_additions_eq_none_iff rest).mpr h.last, hadded, Option.none_or, Option.toList_some,
    List.lookup_cons_self, Option.some_or]

/-! ## Questions and answers -/

/-- A **question** about the library of a name. -/
inductive Question where
  | has
  | functions
  | callable (function : Text)

/-- The step that asks a question. -/
def Question.step (name : Text) : Question → Step
  | .has => .has name
  | .functions => .functions name
  | .callable function => .callable name function

/-- The **answer** of a session to a question about the library of a name. -/
def answer (host : Host) (s : Session) (name : Text) (question : Question) :
    Except Value Answer :=
  (s.perform host (question.step name)).2

/-- What is answered from a library that goes by a name. -/
def answerOf (library : Library) (name : Text) : Question → Except Value Answer
  | .has => .ok (.flag true)
  | .functions => .ok (.signatures library.signatures)
  | .callable function =>
    ((Registry.callableIn library name function).map Answer.callable).mapError LibraryFault.toValue

/-- What is answered where there is no library. -/
def answerOfNone (name : Text) : Question → Except Value Answer
  | .has => .ok (.flag false)
  | .functions => .error (LibraryFault.notLoaded name).toValue
  | .callable _ => .error (LibraryFault.notLoaded name).toValue

/-- **A session answers from the library that is loaded** under the name. -/
theorem answer_eq (host : Host) (s : Session) (name : Text) (question : Question) :
    s.answer host name question
      = match s.registry.loaded.lookup name with
        | some library => answerOf library name question
        | none => answerOfNone name question := by
  cases question with
  | has =>
    simp only [answer, Question.step, perform, Registry.has]
    cases s.registry.loaded.lookup name <;> rfl
  | functions =>
    simp only [answer, Question.step, perform, Registry.functions, Registry.library]
    cases s.registry.loaded.lookup name <;> rfl
  | callable function =>
    simp only [answer, Question.step, perform, Registry.callable, Registry.library]
    cases s.registry.loaded.lookup name with
    | none => rfl
    | some library =>
      simp only [bind, Except.bind, answerOf]
      cases Registry.callableIn library name function <;> rfl

/-- A callable that is answered is one of the library that is loaded. -/
theorem answer_callable_eq_ok_iff {function : Text} {c : Callable} :
    s.answer host name (.callable function) = .ok (.callable c)
      ↔ ∃ library, s.registry.loaded.lookup name = some library
        ∧ Registry.callableIn library name function = .ok c := by
  rw [answer_eq]
  cases s.registry.loaded.lookup name with
  | none => exact ⟨nofun, nofun⟩
  | some library =>
    simp only [answerOf, Option.some.injEq, exists_eq_left']
    cases Registry.callableIn library name function with
    | error fault => exact ⟨nofun, nofun⟩
    | ok found => simp [Except.map, Except.mapError]

/-- A callable is called as it is, whatever the registry has become. -/
theorem perform_call (host : Host) (s : Session) (c : Callable) (arguments : List Value) :
    (s.perform host (.call c arguments)).2
      = match c.signature.admit arguments with
        | .error refusal => .error (c.refused refusal)
        | .ok () => (c.target.call s.world arguments).2.map .value := by
  rw [perform, after, Callable.call]
  cases c.signature.admit arguments <;> rfl

/-! ## Whole sessions -/

/-- A registry that was opened has nothing in it. -/
theorem loaded_of_opened {libraryPath settingsPath : Option Text} {skipCheck : Bool} {r : Registry}
    (h : Registry.opened host libraryPath settingsPath skipCheck = .ok r) : r.loaded = [] := by
  rw [Registry.opened] at h
  cases hoptions : Registry.checkOptions host settingsPath with
  | error fault =>
    rw [hoptions] at h
    exact absurd h nofun
  | ok options =>
    rw [hoptions] at h
    rw [← Except.ok.inj h]

/-- In a session that began with nothing, the libraries on record are all that is loaded. -/
theorem loaded_run_of_opened {libraryPath settingsPath : Option Text} {skipCheck : Bool}
    (h : Registry.opened host libraryPath settingsPath skipCheck = .ok start.registry)
    (steps : List Step) :
    (start.run host steps).1.registry.loaded = additions host start steps := by
  rw [loaded_run, loaded_of_opened h, List.append_nil]

/-- Answers about a name are the same where the same library is loaded. -/
theorem answer_congr (s s' : Session)
    (h : s'.registry.loaded.lookup name = s.registry.loaded.lookup name) (question : Question) :
    s'.answer host name question = s.answer host name question := by
  rw [answer_eq, answer_eq, h]

/-- **An addition changes no other name.** -/
theorem lookup_perform_add {other : Text} (hother : other ≠ name) (s : Session) :
    (s.perform host (.add name)).1.registry.loaded.lookup other
      = s.registry.loaded.lookup other := by
  have hnone : (addition? host s (.add name)).toList.lookup other = none :=
    lookup_addition?_eq_none_iff.mpr fun h => hother (Step.add.inj h.1).symm
  rw [loaded_perform, List.lookup_append, hnone, Option.none_or]

/-- A library of a name is there exactly when an addition of it succeeded. -/
theorem answer_has_iff {steps : List Step}
    (hloaded : s.registry.loaded = additions host start steps) :
    s.answer host name .has = .ok (.flag true) ↔ WasAdded host start steps name := by
  rw [answer_eq, hloaded, ← not_iff_not, ← lookup_additions_eq_none_iff]
  cases (additions host start steps).lookup name with
  | none => exact iff_of_true nofun rfl
  | some library => exact iff_of_false (fun h => h rfl) nofun

/-- **A session answers from the last addition that succeeded.** A library of a name is there exactly
when some addition of it succeeded, and then everything is answered from the library that the last
one found. An addition that fails changes nothing, one that succeeds changes no other name, and
looking somewhere else changes no name. A callable that was answered keeps its name, its signature
and its routine: whatever is done afterwards, it checks by that signature and calls that routine. -/
theorem answers_from_last_addition (host : Host) (libraryPath settingsPath : Option Text)
    (skipCheck : Bool) (start : Session)
    (hopened : Registry.opened host libraryPath settingsPath skipCheck = .ok start.registry)
    (steps : List Step) (s : Session) (hs : s = (start.run host steps).1) :
    (∀ name, s.answer host name .has = .ok (.flag true) ↔ WasAdded host start steps name)
      ∧ (∀ name, WasAdded host start steps name →
          ∃ first rest library, steps = first ++ .add name :: rest
            ∧ IsLastAddition host start name first rest
            ∧ (start.run host first).1.registry.find host name = .ok library
            ∧ ∀ question, s.answer host name question = answerOf library name question)
      ∧ (∀ name, ¬ WasAdded host start steps name →
          ∀ question, s.answer host name question = answerOfNone name question)
      ∧ (∀ name, ¬ s.Succeeds host name → (s.perform host (.add name)).1 = s)
      ∧ (∀ name other question, other ≠ name →
          (s.perform host (.add name)).1.answer host other question = s.answer host other question)
      ∧ (∀ path name question,
          (s.perform host (.setPath path)).1.answer host name question
            = s.answer host name question)
      ∧ ∀ name function c, s.answer host name (.callable function) = .ok (.callable c) →
          c.library = name
            ∧ (∃ library, s.registry.loaded.lookup name = some library
                ∧ library.signatures.find? (·.name == function) = some c.signature
                ∧ library.exports.lookup function = some (.routine c.target))
            ∧ ∀ more arguments,
                ((s.run host more).1.perform host (.call c arguments)).2
                  = match c.signature.admit arguments with
                    | .error refusal => .error (c.refused refusal)
                    | .ok () =>
                      (c.target.call (s.run host more).1.world arguments).2.map .value := by
  have hloaded : s.registry.loaded = additions host start steps := by
    rw [hs, loaded_run_of_opened hopened]
  refine ⟨fun name => answer_has_iff hloaded, fun name hadded => ?_, fun name hadded question => ?_,
    fun name => perform_add_of_not_succeeds, fun name other question hother => ?_,
    fun path name question => ?_, fun name function c hanswer => ?_⟩
  · obtain ⟨first, rest, hsplit, hlast⟩ := hadded.exists_last
    obtain ⟨library, hfind⟩ := succeeds_iff.mp hlast.succeeds
    refine ⟨first, rest, library, hsplit, hlast, hfind, fun question => ?_⟩
    rw [answer_eq, hloaded, hsplit, lookup_additions_of_isLastAddition hlast hfind]
  · rw [answer_eq, hloaded, (lookup_additions_eq_none_iff steps).mpr hadded]
  · exact answer_congr s _ (lookup_perform_add hother s) question
  · exact answer_congr s (s.perform host (.setPath path)).1 rfl question
  · obtain ⟨library, hlibrary, hcallable⟩ := answer_callable_eq_ok_iff.mp hanswer
    obtain ⟨hname, hsignature, htarget⟩ := Registry.callableIn_eq_ok_iff.mp hcallable
    exact ⟨hname, ⟨library, hlibrary, hsignature, htarget⟩,
      fun more arguments => perform_call host _ c arguments⟩

end Session

/-! ## A host with one library -/

namespace Host

/-- The source of the library of the smallest kind of host. -/
def kitSource : Text := "/lib/kit.d.ts"

/-- The module of that library. -/
def kitModule : Text := "/lib/kit.js"

/-- **A host with one library**, which goes by the name `kit`: what its source says and what its
module hands out. -/
def offering (signatures : List Signature) (exports : List (Text × Export)) : Host where
  directory := "/"
  builtinPath := "/lib"
  isThere path := path == kitSource || path == kitModule
  settings path := .error (.unreadable path)
  faults _ _ := []
  signatures _ path := if path == kitSource then some signatures else none
  load path := if path == kitModule then .ok exports else .ok []

variable {signatures : List Signature} {exports : List (Text × Export)}

/-- The library that such a host offers. -/
def kit (signatures : List Signature) (exports : List (Text × Export)) : Library :=
  ⟨"kit", kitSource, kitModule, signatures, exports⟩

/-- The signatures of a source: one of a function that can be called, and two that cannot. -/
def declared : List Signature :=
  [⟨"who", [⟨"xs", "string[]", .text, true, true⟩], "string", .text⟩,
    ⟨"missing", [], "void", .void⟩, ⟨"notCallable", [], "number", .number⟩]

/-- What the module beside it hands out: a function, a number in the place of one, and a function
that is not declared. -/
def handedOut : List (Text × Export) :=
  [("who", .routine (.returning fun arguments => .number (.ofNat arguments.length))),
    ("notCallable", .constant (.number 3)),
    ("undeclared", .routine (.returning fun _ => .number 5))]

/-- A session that begins in the directory of the library. -/
def kitSession : Session := ⟨⟨"/lib", .strict, false, []⟩, .initial⟩

theorem opened_offering :
    Registry.opened (offering signatures exports) none none false = .ok kitSession.registry := rfl

/-- The files of the library are found in its directory, whatever is loaded. -/
theorem findFile_offering :
    kitSession.registry.findFile (offering signatures exports) "kit" Registry.sourceEndings
        = some kitSource
      ∧ kitSession.registry.findFile (offering signatures exports) "kit" Registry.moduleEndings
        = some kitModule :=
  ⟨rfl, rfl⟩

theorem find_offering :
    kitSession.registry.find (offering signatures exports) "kit" = .ok (kit signatures exports) := by
  obtain ⟨hsource, hmodule⟩ := @findFile_offering signatures exports
  rw [Registry.find, Registry.findPaths, hsource, hmodule]
  rfl

end Host

/-- A library that was added stays when it is not found a second time. -/
theorem Session.answers_from_last_addition_kit :
    Registry.opened (.offering Host.declared Host.handedOut) none none false
        = .ok Host.kitSession.registry
      ∧ ∃ s, s = (Host.kitSession.run (.offering Host.declared Host.handedOut)
            [.add "kit", .setPath "/elsewhere"]).1
        ∧ s.answer (.offering Host.declared Host.handedOut) "kit" .functions
            = .ok (.signatures Host.declared)
        ∧ (s.perform (.offering Host.declared Host.handedOut) (.add "kit")).1 = s := by
  refine ⟨Host.opened_offering, _, rfl, ?_⟩
  obtain ⟨-, hadded, -, hfailing, -⟩ := answers_from_last_addition
    (.offering Host.declared Host.handedOut) none none false Host.kitSession Host.opened_offering
    [.add "kit", .setPath "/elsewhere"] _ rfl
  constructor
  · obtain ⟨first, rest, library, hsteps, -, hfind, hanswers⟩ :=
      hadded "kit" ⟨[], _, rfl, succeeds_iff.mpr ⟨_, Host.find_offering⟩⟩
    -- There is one addition only, so the library is the one that the first step found.
    obtain rfl : first = [] := by
      cases first with
      | nil => rfl
      | cons step first => cases first <;> simp at hsteps
    rw [hanswers, ← Except.ok.inj (Host.find_offering.symm.trans hfind)]
    rfl
  · refine hfailing "kit" ?_
    have hfails : ((Host.kitSession.run (.offering Host.declared Host.handedOut)
        [.add "kit", .setPath "/elsewhere"]).1.perform
          (.offering Host.declared Host.handedOut) (.add "kit")).2
          = .error (LibraryFault.notFound "kit" "/elsewhere").toValue := rfl
    rw [Succeeds, hfails]
    nofun

end Turnstile
