import Turnstile.CommandLine.Run

/-! # Runs step by step

A run is prepared, and then it takes one step after the other until it has nothing left to do or
something fails.

* **`Registry.message_find`** is why a library is not found: there are words for it, unless its module
  throws.
* **`Task.Prepared`** lists the ways in which a run can start, and **`Task.prepare_cases`** says that
  there are no others.
* **`Run.IsReported`** is what the lines of a run tell at any time: when it has ended with code `1`
  there is one line on the error channel, and it is the last; otherwise there is none.
* **`Run.isReported_next`** is the step, **`Run.isReported_followed`** the run. -/

namespace Turnstile

/-! ## Lines -/

/-- A line on the error channel. -/
def Line.IsFault : Line → Prop
  | .fault _ => True
  | _ => False

/-- Lines of which none is on the error channel. -/
def Line.Clean (lines : List Line) : Prop := ∀ l ∈ lines, ¬ l.IsFault

namespace Line

variable {lines more : List Line} {text : Text}

theorem clean_nil : Clean [] := nofun

theorem clean_output (text : Text) : Clean [.output text] := by
  intro l hl
  rw [List.mem_singleton.mp hl]
  exact id

theorem Clean.append (h : Clean lines) (hmore : Clean more) : Clean (lines ++ more) := by
  intro l hl
  rcases List.mem_append.mp hl with hl | hl
  · exact h l hl
  · exact hmore l hl

end Line

/-! ## How a run starts -/

namespace Invocation

variable {host : Host} {i : Invocation} {r : Registry} {c : Callable} {values : List Value}

/-- **An invocation calls a function** of a library that is loaded, with values that its arguments are
read as. -/
structure Calls (host : Host) (i : Invocation) (r : Registry) (c : Callable) (values : List Value) :
    Prop where
  noHelp : i.help = false
  noList : i.list = false
  named : isGiven i.function = true
  loaded : i.registry host = .ok r
  found : r.callable i.library (i.function.getD []) = .ok c
  read : c.signature.readArguments i.arguments = .ok values

/-- What is written before a function is called. -/
def linesBefore (i : Invocation) (r : Registry) : List Line := i.configurationLines ++ i.loadedLines r

/-- The task of calling a function. -/
def task (i : Invocation) (c : Callable) (values : List Value) : Task :=
  if i.profile then .profile c values (.zero false) i.repetitions else .call c values

theorem clean_configurationLines (i : Invocation) : Line.Clean i.configurationLines := by
  rw [configurationLines]
  split
  · exact Line.clean_output _
  · exact Line.clean_nil

theorem clean_linesBefore (i : Invocation) (r : Registry) : Line.Clean (i.linesBefore r) := by
  refine (clean_configurationLines i).append ?_
  rw [loadedLines]
  split
  · exact Line.clean_output _
  · exact Line.clean_nil

end Invocation

/-! ## Libraries that are not found -/

/-- The words of a fault are what its value says. -/
theorem LibraryFault.complaint_of_message {fault : LibraryFault} {said : Text}
    (h : fault.message = .ok said) : fault.toValue.complaint = .ok said := by
  rw [toValue, h]
  rfl

namespace Registry

variable {host : Host} {r : Registry} {name path : Text} {fault : LibraryFault}

theorem findPaths_eq_error (h : r.findPaths host name = .error fault) :
    fault = .notFound name r.libraryPath := by
  rw [findPaths] at h
  split at h
  · cases h
  · exact (Except.error.inj h).symm

theorem check_eq_error (h : r.check host name path = .error fault) :
    fault = .unchecked name (host.faults r.options path) := by
  rw [check] at h
  split at h
  · cases h
  · split at h
    · cases h
    · exact (Except.error.inj h).symm

theorem describe_eq_error (h : r.describe host path = .error fault) : fault = .undescribed path := by
  rw [describe] at h
  split at h
  · cases h
  · exact (Except.error.inj h).symm

theorem loadModule_eq_error (h : loadModule host name path = .error fault) :
    ∃ broken, host.load path = .error broken ∧ fault = .notLoadable name broken := by
  rw [loadModule] at h
  split at h
  · cases h
  · next broken hbroken => exact ⟨broken, hbroken, (Except.error.inj h).symm⟩

/-- A library is not found for a reason with words, or because its module throws. -/
theorem message_find (h : r.find host name = .error fault) :
    (∃ said, fault.message = .ok said)
      ∨ ∃ path broken, host.load path = .error broken ∧ fault = .notLoadable name broken := by
  simp only [find, bind, Except.bind] at h
  -- The stages in their order: the first one that fails has the fault.
  split at h
  · next hpaths =>
    rw [← Except.error.inj h, findPaths_eq_error hpaths]
    exact Or.inl ⟨_, rfl⟩
  · split at h
    · next hcheck =>
      rw [← Except.error.inj h, check_eq_error hcheck]
      exact Or.inl ⟨_, rfl⟩
    · split at h
      · next hdescribe =>
        rw [← Except.error.inj h, describe_eq_error hdescribe]
        exact Or.inl ⟨_, rfl⟩
      · split at h
        · next hload =>
          rw [← Except.error.inj h]
          exact Or.inr ⟨_, loadModule_eq_error hload⟩
        · cases h

end Registry

namespace Task

variable {host : Host} {arguments : List Text} {i : Invocation} {r : Registry} {c : Callable}
  {values : List Value}

/-- **How a run can start**: it fails, with words unless a module that is loaded throws what has none, it
has nothing to do any more, or it calls a function. -/
inductive Prepared (host : Host) (arguments : List Text) : List Line → Except Value Task → Prop where
  | refused {lines : List Line} {thrown : Value} {said : Text} (clean : Line.Clean lines)
      (worded : thrown.complaint = .ok said) : Prepared host arguments lines (.error thrown)
  | unloaded {lines : List Line} {path : Text} {broken thrown : Value} (clean : Line.Clean lines)
      (fails : host.load path = .error broken) (unworded : broken.complaint = .error thrown) :
    Prepared host arguments lines (.error thrown)
  | nothing {lines : List Line} (clean : Line.Clean lines) :
    Prepared host arguments lines (.ok .nothing)
  | calls {i : Invocation} {r : Registry} {c : Callable} {values : List Value}
      (parsed : Invocation.parse host.directory host.builtinPath arguments = .ok i)
      (calls : i.Calls host r c values) :
    Prepared host arguments (i.linesBefore r) (.ok (i.task c values))

/-- A list of functions is written without faults. -/
theorem clean_signatures (signatures : List Signature) :
    Line.Clean (signatures.map fun s => .output s.toText) := by
  intro l hl
  obtain ⟨s, -, rfl⟩ := List.mem_map.mp hl
  exact id

/-- **What is thrown for a library that cannot be added has words**, unless it is thrown for what its
module throws, and that has none. -/
theorem complaint_registry {thrown : Value} (h : i.registry host = .error thrown) :
    (∃ said, thrown.complaint = .ok said)
      ∨ ∃ path broken, host.load path = .error broken ∧ broken.complaint = .error thrown := by
  rw [Invocation.registry] at h
  cases hopened : Registry.opened host (some i.libraryPath) i.settingsPath i.skipCheck with
  | error fault =>
    simp only [hopened] at h
    rw [← Except.error.inj h]
    exact Or.inl ⟨_, rfl⟩
  | ok r =>
    cases hfind : r.find host i.library with
    | ok library =>
      simp only [hopened, Registry.add, hfind] at h
      cases h
    | error fault =>
      simp only [hopened, Registry.add, hfind] at h
      replace h := Except.error.inj h
      rcases Registry.message_find hfind with ⟨said, hsaid⟩ | ⟨path, broken, hload, rfl⟩
      · rw [← h]
        exact Or.inl ⟨said, LibraryFault.complaint_of_message hsaid⟩
      · cases hbroken : broken.complaint with
        | ok reason =>
          obtain ⟨said, hsaid⟩ :
              ∃ said, (LibraryFault.notLoadable i.library broken).message = .ok said := by
            rw [LibraryFault.message, hbroken]
            exact ⟨_, rfl⟩
          rw [← h]
          exact Or.inl ⟨said, LibraryFault.complaint_of_message hsaid⟩
        | error next =>
          rw [LibraryFault.toValue, LibraryFault.message, hbroken] at h
          refine Or.inr ⟨path, broken, hload, ?_⟩
          rw [hbroken, ← h]
          rfl

/-- A fault of a library that was added has words. -/
theorem complaint_library {r : Registry} {name : Text} {fault : LibraryFault}
    (h : r.library name = .error fault) : ∃ said, fault.toValue.complaint = .ok said := by
  rw [Registry.library] at h
  split at h
  · cases h
  · rw [← Except.error.inj h]
    exact ⟨_, rfl⟩

/-- So has one of a list of functions, -/
theorem complaint_functions {name : Text} {fault : LibraryFault}
    (h : r.functions name = .error fault) : ∃ said, fault.toValue.complaint = .ok said := by
  rw [Registry.functions] at h
  cases hlibrary : r.library name with
  | ok library =>
    rw [hlibrary] at h
    cases h
  | error other =>
    rw [hlibrary] at h
    rw [← Except.error.inj h]
    exact complaint_library hlibrary

/-- and one of a function that is looked up. -/
theorem complaint_callable {name function : Text} {fault : LibraryFault}
    (h : r.callable name function = .error fault) : ∃ said, fault.toValue.complaint = .ok said := by
  rw [Registry.callable] at h
  cases hlibrary : r.library name with
  | error other =>
    rw [hlibrary] at h
    rw [← Except.error.inj h]
    exact complaint_library hlibrary
  | ok library =>
    have hcallable : Registry.callableIn library name function = .error fault := by
      rw [hlibrary] at h
      exact h
    rw [Registry.callableIn] at hcallable
    split at hcallable
    · cases hcallable
    · rw [← Except.error.inj hcallable]
      exact ⟨_, rfl⟩

/-- The stages behind the library, for an invocation that is no question for help. -/
theorem ofInvocation_cases (hhelp : i.help = false) (hregistry : i.registry host = .ok r) :
    (∃ thrown said, ofInvocation i r = .error thrown ∧ thrown.complaint = .ok said)
      ∨ (∃ lines, ofInvocation i r = .ok (lines, .nothing) ∧ Line.Clean lines)
      ∨ ∃ c values, i.Calls host r c values ∧ ofInvocation i r = .ok ([], i.task c values) := by
  rw [ofInvocation]
  by_cases hlist : (i.list || !Invocation.isGiven i.function) = true
  · rw [if_pos hlist]
    cases hfunctions : r.functions i.library with
    | error fault =>
      obtain ⟨said, hsaid⟩ := complaint_functions hfunctions
      exact Or.inl ⟨_, said, rfl, hsaid⟩
    | ok signatures => exact Or.inr (Or.inl ⟨_, rfl, clean_signatures signatures⟩)
  · rw [if_neg hlist]
    simp only [Bool.or_eq_true, not_or, Bool.not_eq_true, Bool.not_eq_false'] at hlist
    cases hfound : r.callable i.library (i.function.getD []) with
    | error fault =>
      obtain ⟨said, hsaid⟩ := complaint_callable hfound
      exact Or.inl ⟨_, said, rfl, hsaid⟩
    | ok c =>
      cases hread : c.signature.readArguments i.arguments with
      | error fault =>
        simp only [hread]
        exact Or.inl ⟨_, fault.message, rfl, rfl⟩
      | ok values =>
        simp only [hread]
        exact Or.inr (Or.inr ⟨c, values, ⟨hhelp, hlist.1, hlist.2, hregistry, hfound, hread⟩, rfl⟩)

/-- **There is no other way to start.** -/
theorem prepare_cases (host : Host) (arguments : List Text) :
    Prepared host arguments (prepare host arguments).1 (prepare host arguments).2 := by
  rw [prepare]
  cases hparse : Invocation.parse host.directory host.builtinPath arguments with
  | error fault => exact .refused Line.clean_nil rfl
  | ok i =>
    cases hhelp : i.help with
    | true =>
      simp only [hhelp, if_true]
      exact .nothing (Line.clean_output _)
    | false =>
      simp only [hhelp, Bool.false_eq_true, if_false]
      cases hregistry : i.registry host with
      | error thrown =>
        rcases complaint_registry hregistry with ⟨said, hsaid⟩ | ⟨path, broken, hload, hbroken⟩
        · exact .refused i.clean_configurationLines hsaid
        · exact .unloaded i.clean_configurationLines hload hbroken
      | ok r =>
        simp only
        rcases ofInvocation_cases hhelp hregistry with
          ⟨thrown, said, hfails, hsaid⟩ | ⟨lines, hnothing, hclean⟩ | ⟨c, values, hcalls, htask⟩
        · simp only [hfails]
          exact .refused (i.clean_linesBefore r) hsaid
        · simp only [hnothing]
          exact .nothing ((i.clean_linesBefore r).append hclean)
        · simp only [htask, List.append_nil]
          exact .calls hparse hcalls

/-- **An invocation that calls a function has that to do.** -/
theorem prepare_of_calls (hparse : Invocation.parse host.directory host.builtinPath arguments = .ok i)
    (h : i.Calls host r c values) :
    prepare host arguments = (i.linesBefore r, .ok (i.task c values)) := by
  have hlist : ¬ (i.list || !Invocation.isGiven i.function) = true := by
    rw [h.noList, h.named]
    decide
  have htask : ofInvocation i r = .ok ([], i.task c values) := by
    rw [ofInvocation, if_neg hlist]
    simp only [h.found, h.read]
    rfl
  simp only [prepare, hparse, h.noHelp, Bool.false_eq_true, if_false, h.loaded, htask, List.append_nil]
  rfl

end Task

/-! ## Steps -/

namespace Run

variable {host : Host} {world : World} {arguments : List Text} {r : Run} {lines more : List Line}

/-- A run followed from its start for at most a number of steps, and what it writes. -/
def followed (host : Host) (world : World) (arguments : List Text) (steps : Nat) : List Line × Run :=
  ((start host world arguments).1 ++ ((start host world arguments).2.complete steps).1,
    ((start host world arguments).2.complete steps).2)

/-- A run that has ended stays as it is. -/
theorem complete_ended (world : World) (ending : Ending) (steps : Nat) :
    complete ⟨world, .inr ending⟩ steps = ([], ⟨world, .inr ending⟩) := by
  cases steps <;> rfl

/-- A run that is going takes its next step, -/
theorem complete_succ (world : World) (task : Task) (steps : Nat) :
    complete ⟨world, .inl task⟩ (steps + 1)
      = ((next ⟨world, .inl task⟩).1 ++ ((next ⟨world, .inl task⟩).2.complete steps).1,
        ((next ⟨world, .inl task⟩).2.complete steps).2) := rfl

/-- which leads to where the run ends, -/
theorem complete_snd_of_next {task : Task} (h : next ⟨world, .inl task⟩ = (lines, r)) (steps : Nat) :
    (complete ⟨world, .inl task⟩ (steps + 1)).2 = (r.complete steps).2 := by
  rw [complete_succ, h]

/-- and then it is followed further. -/
theorem complete_add (r : Run) (first second : Nat) :
    r.complete (first + second)
      = ((r.complete first).1 ++ ((r.complete first).2.complete second).1,
        ((r.complete first).2.complete second).2) := by
  induction first generalizing r with
  | zero => rw [Nat.zero_add, complete, List.nil_append]
  | succ first ih =>
    obtain ⟨world, task | ending⟩ := r
    · rw [Nat.add_right_comm, complete_succ, complete_succ, ih, List.append_assoc]
    · rw [complete_ended, complete_ended, complete_ended, List.nil_append]

/-- **What the lines of a run tell**: one fault, which is the last line, when it has ended with code
`1`, and no fault as long as it is going or when it has ended in another way. -/
inductive IsReported : List Line → Run → Prop where
  | going {lines : List Line} {world : World} {task : Task} (clean : Line.Clean lines) :
    IsReported lines ⟨world, .inl task⟩
  | succeeded {lines : List Line} {world : World} (clean : Line.Clean lines) :
    IsReported lines ⟨world, .inr (.exited 0)⟩
  | told {lines : List Line} {world : World} {complaint : Text} (clean : Line.Clean lines) :
    IsReported (lines ++ [.ofComplaint complaint]) ⟨world, .inr (.exited 1)⟩
  | untold {lines : List Line} {world : World} {caught next : Value} (clean : Line.Clean lines)
      (wordless : caught.complaint = .error next) :
    IsReported lines ⟨world, .inr (.threw next)⟩
  | waiting {lines : List Line} {world : World} (clean : Line.Clean lines) :
    IsReported lines ⟨world, .inr .waiting⟩

/-- Clean lines in front change nothing. -/
theorem IsReported.behind (h : IsReported more r) (hclean : Line.Clean lines) :
    IsReported (lines ++ more) r := by
  cases h with
  | going clean => exact .going (hclean.append clean)
  | succeeded clean => exact .succeeded (hclean.append clean)
  | told clean =>
    rw [← List.append_assoc]
    exact .told (hclean.append clean)
  | untold clean wordless => exact .untold (hclean.append clean) wordless
  | waiting clean => exact .waiting (hclean.append clean)

/-- A value that was thrown is reported. -/
theorem isReported_failed (world : World) (h : Line.Clean lines) (thrown : Value) :
    IsReported (failed world lines thrown).1 (failed world lines thrown).2 := by
  rw [failed, caught]
  cases hsaid : thrown.complaint with
  | ok complaint => exact .told h
  | error next =>
    rw [List.append_nil]
    exact .untold h hsaid

/-- The lines of a call are clean where its line is. -/
theorem clean_present (c : Callable) (world : World) (values : List Value) {line : Text → Line}
    (hline : ∀ text, ¬ (line text).IsFault) : Line.Clean (c.present world values line).2.1 := by
  rw [Callable.present]
  rcases c.callAndWait world values with ⟨world', _ | _ | result⟩
  · exact Line.clean_nil
  · exact Line.clean_nil
  · dsimp only
    cases result.display world'.memory with
    | error fault => exact Line.clean_nil
    | ok text =>
      intro l hl
      rw [List.mem_singleton.mp hl]
      exact hline _

/-- A call that was presented is reported. -/
theorem isReported_after {presented : World × List Line × Option (Except Value Unit)}
    (h : Line.Clean presented.2.1) (left : Task) :
    IsReported (after presented left).1 (after presented left).2 := by
  obtain ⟨world, lines, _ | thrown | _⟩ := presented
  · exact .waiting h
  · exact isReported_failed world h thrown
  · exact .going h

/-- **A step is reported.** -/
theorem isReported_next (world : World) (task : Task) :
    IsReported (next ⟨world, .inl task⟩).1 (next ⟨world, .inl task⟩).2 := by
  cases task with
  | nothing => exact .succeeded Line.clean_nil
  | call c values => exact isReported_after (clean_present c world values fun _ => id) _
  | profile c values made repetitions =>
    rw [next]
    simp only
    split
    · exact isReported_after (clean_present c world values fun _ => id) _
    · exact .succeeded Line.clean_nil

/-- Steps taken one after the other are reported. -/
theorem IsReported.complete (h : IsReported lines r) (steps : Nat) :
    IsReported (lines ++ (r.complete steps).1) (r.complete steps).2 := by
  induction steps generalizing lines r with
  | zero =>
    rw [Run.complete, List.append_nil]
    exact h
  | succ steps ih =>
    obtain ⟨world, task | ending⟩ := r
    · obtain ⟨hclean⟩ := h
      rw [complete_succ, ← List.append_assoc]
      exact ih ((isReported_next world task).behind hclean)
    · rw [complete_ended, List.append_nil]
      exact h

end Run

end Turnstile
