import Turnstile.CommandLine.Run
import Turnstile.Installation.Builtin
import Turnstile.Proofs.Memory.CreatedText

/-! # The way of an argument through the program

What a run prints that makes an owned string of an argument: the argument is read, written into a
block, read back for the line, and the block is given back.

* **`Host.OffersStrings`** says that the library of strings is installed.
* One lemma for each stage: **`parse_terminated`** for the arguments, **`prepare_createString`** for
  the library and the function, **`present_createString`** for the call, **`complete_call`** for the
  run around it.
* **`run_createString`** puts them together. -/

namespace Turnstile

/-! ## The library of strings -/

/-- What the library of strings says about making one. -/
def Strings.createSignature : Signature :=
  ⟨"createString", [⟨"input", "string", .text, false, false⟩,
    ⟨"allocator", "Allocator", .opaqueValue, true, false⟩], "OwnedString | null", .opaqueValue⟩

/-- What it says about releasing one. -/
def Strings.freeSignature : Signature :=
  ⟨"freeString", [⟨"str", "OwnedString | null", .opaqueValue, true, false⟩], "void", .void⟩

/-- The registry that a run looks libraries up in when no option says otherwise. -/
def Host.registry (host : Host) : Registry :=
  ⟨Path.resolve host.directory (Path.resolve host.directory host.builtinPath), .strict, false, []⟩

/-- **A host with the library of strings in place**: its source and its module are found, there is
nothing wrong with the source, and they say and hand out what they should. -/
structure Host.OffersStrings (host : Host) (source module : Text) : Prop where
  found : host.registry.findPaths host "string-lib" = .ok (source, module)
  faultless : host.faults .strict source = []
  described : host.signatures .strict source
    = some [Strings.createSignature, Strings.freeSignature]
  loaded : host.load module = .ok (InstalledFile.routines
    [("createString", Strings.create), ("freeString", Strings.free)])

/-! ## The arguments -/

/-- **Behind two dashes nothing is an option**: a library, a function and its arguments are taken as
they are. -/
theorem parse_terminated (directory builtin library function : Text) (hlibrary : library ≠ [])
    (hfunction : function ≠ []) (arguments : List Text) :
    Invocation.parse directory builtin ("--" :: library :: function :: arguments)
      = .ok ⟨Path.resolve directory builtin, none, library, some function, arguments, false, false,
          1, false, false, false⟩ := by
  have hscan : Invocation.scan {} ((("--" : Text)) :: library :: function :: arguments)
      = .ok (Invocation.Reading.addPositional {} (library :: function :: arguments)) := rfl
  have hl : Invocation.isGiven (some library) = true := by
    simp [Invocation.isGiven, hlibrary]
  have hf : Invocation.isGiven (some function) = true := by
    simp [Invocation.isGiven, hfunction]
  have hmissing : Invocation.Reading.missing?
      (Invocation.Reading.addPositional {} (library :: function :: arguments)) = none := by
    simp [Invocation.Reading.missing?, Invocation.Reading.addPositional, hl, hf]
  simp only [Invocation.parse, hscan, hmissing]
  rfl

/-! ## The library and the function -/

variable {host : Host} {source module : Text}

/-- The function that makes strings, as a run calls it. -/
def Strings.createCallable : Callable := ⟨"string-lib", Strings.createSignature, Strings.create⟩

/-- The library of strings as it is found. -/
def Strings.library (source module : Text) : Library :=
  ⟨"string-lib", source, module, [Strings.createSignature, Strings.freeSignature],
    InstalledFile.routines [("createString", Strings.create), ("freeString", Strings.free)]⟩

/-- The library of strings is found where it is installed. -/
theorem find_strings (hoffers : host.OffersStrings source module) :
    host.registry.find host "string-lib" = .ok (Strings.library source module) := by
  have hcheck : host.registry.check host "string-lib" source = .ok () := by
    simp only [Registry.check, Host.registry, hoffers.faultless, Bool.false_eq_true, if_false]
  have hdescribe : host.registry.describe host source
      = .ok [Strings.createSignature, Strings.freeSignature] := by
    simp only [Registry.describe, Host.registry, hoffers.described]
  have hload : Registry.loadModule host "string-lib" module = .ok (InstalledFile.routines
      [("createString", Strings.create), ("freeString", Strings.free)]) := by
    rw [Registry.loadModule, hoffers.loaded]
  simp only [Registry.find, hoffers.found, hcheck, hdescribe, hload, bind, Except.bind]
  rfl

/-- The arguments of a command line that makes a string of a text. -/
def createArguments (t : Text) : List Text := ["--", "string-lib", "createString", t]

/-- **A command line that makes a string** calls the function with the text itself. -/
theorem prepare_createString (hoffers : host.OffersStrings source module) (t : Text) :
    Task.prepare host (createArguments t) = ([], .ok (.call Strings.createCallable [.text t])) := by
  have hparse := parse_terminated host.directory host.builtinPath "string-lib" "createString"
    (by decide) (by decide) [t]
  have hopened : Registry.opened host (some (Path.resolve host.directory host.builtinPath)) none
      false = .ok host.registry := rfl
  simp only [createArguments, Task.prepare, hparse, Invocation.registry, hopened, Registry.add,
    find_strings hoffers, Except.map]
  rfl

/-! ## The call and the line -/

/-- A text alone is let through. -/
theorem admit_text (t : Text) : Strings.createSignature.admit [.text t] = .ok () := by
  have hrest : Strings.createSignature.rest? = none := rfl
  unfold Signature.admit
  rw [hrest, if_neg]
  · simp [Strings.createSignature, admitFrom, Parameter.admit, ValueKind.admits, bind, Except.bind]
  · simp [Strings.createSignature]

/-- The call of the function that makes strings makes one in the default allocator, -/
theorem call_createString (world : World) (t : Text) :
    Strings.createCallable.call world [.text t]
      = (⟨(Strings.createIn world.memory t Memory.defaultAllocator).1, world.calls + 1⟩,
          (Strings.createIn world.memory t Memory.defaultAllocator).2) := by
  have hadmit : Strings.createCallable.signature.admit [.text t] = .ok () := admit_text t
  rw [Callable.call, hadmit]
  rfl

/-- and that is waited for. -/
theorem callAndWait_createString (world : World) (t : Text) :
    Strings.createCallable.callAndWait world [.text t]
      = (⟨(Strings.createIn world.memory t Memory.defaultAllocator).1, world.calls + 1⟩,
          Value.settleEnding (Strings.createIn world.memory t Memory.defaultAllocator).2) := by
  rw [Callable.callAndWait, call_createString]

/-- **A string that can be read and given back is printed** as its text. -/
theorem present_createString {world : World} {t printed : Text} {m : Memory} {s : StringId}
    (h : world.memory.createString t Memory.defaultAllocator = (m, .ok (some s)))
    (htext : m.stringText s = .ok printed) (hlive : (m.string s).released = false)
    (hback : (m.releaseString s).2 = .ok ()) (line : Text → Line) :
    Strings.createCallable.present world [.text t] line
      = (⟨(m.releaseString s).1, world.calls + 1⟩, [line printed], some (.ok ())) := by
  have hrelease : releaseResult m (.owned s) = ((m.releaseString s).1, .ok ()) := by
    simp only [releaseResult, hlive, Bool.false_eq_true, if_false, hback]
    rfl
  have hdisplay : (Value.owned s).display m = .ok printed := by
    rw [Value.display, htext]
    rfl
  simp only [Callable.present, callAndWait_createString, Strings.createIn, h, Value.settleEnding,
    Value.settle, hdisplay, hrelease]

/-- Where there is no room for a text, that is printed. -/
theorem present_createString_of_none {world : World} {t : Text} {m : Memory}
    (h : world.memory.createString t Memory.defaultAllocator = (m, .ok none))
    (line : Text → Line) :
    Strings.createCallable.present world [.text t] line
      = (⟨m, world.calls + 1⟩, [line "null"], some (.ok ())) := by
  simp only [Callable.present, callAndWait_createString, Strings.createIn, h, Value.settleEnding,
    Value.settle]
  rfl

/-- **A run that has one call to make** writes its line and ends with code `0`. -/
theorem complete_call {c : Callable} {arguments : List Value} {world world' : World} {line : Line}
    (h : c.present world arguments .output = (world', [line], some (.ok ()))) :
    Run.complete ⟨world, .inl (.call c arguments)⟩ 2 = ([line], ⟨world', .inr (.exited 0)⟩) := by
  simp only [Run.complete, Run.next, h, Run.after]
  rfl

/-! ## The whole run -/

/-- What is printed for a text in a memory of some capacity: the text without a byte order mark in
front, or that there is no block of that size. -/
def Strings.printed (capacity : Nat) (t : Text) : Text :=
  if (Memory.textBytes t).length + 1 < capacity then t.dropMark else "null"

/-- **A capacity with room for a word**, which every process has. -/
def Memory.HasRoom (capacity : Nat) : Prop := (Memory.textBytes "null").length + 1 < capacity

theorem Memory.hasRoom_initial : HasRoom initial.capacity := by
  rw [HasRoom]
  decide

/-- What is printed is the text itself unless there is a mark in front or no room for it. -/
theorem printed_eq_self_iff {capacity : Nat} (hcapacity : Memory.HasRoom capacity) (t : Text) :
    Strings.printed capacity t = t
      ↔ t.head? ≠ some Text.mark ∧ (Memory.textBytes t).length + 1 < capacity := by
  rw [Strings.printed]
  split
  · next hroom => rw [Text.dropMark_eq_self_iff, and_iff_left hroom]
  · next hroom =>
    refine ⟨fun heq => ?_, fun h => absurd h.2 hroom⟩
    -- There is room for the word that is printed instead.
    rw [Memory.HasRoom, heq] at hcapacity
    exact absurd hcapacity hroom

/-- The memory of a new process hands out every block below the capacity. -/
theorem provide_fresh (capacity n : Nat) :
    (Memory.fresh capacity).provide Memory.defaultAllocator n =
      if capacity ≤ n then (Memory.fresh capacity, none)
      else
        ((Memory.fresh capacity).provided Memory.defaultAllocator (.infinity false) n, some ⟨0⟩) := by
  have hm : Memory.HasLimits [.infinity false] (Memory.fresh capacity) :=
    Memory.hasLimits_ofLimits _ _
  have hcapacity : (Memory.fresh capacity).capacity = capacity := rfl
  rw [Memory.provide_heap hm rfl, Memory.exceeds, Bool.false_or, hcapacity]
  by_cases hroom : capacity ≤ n
  · rw [if_pos hroom, if_pos (decide_eq_true hroom)]
  · rw [if_neg hroom, if_neg (by simpa using hroom)]
    rfl

/-- **The call in a new process** prints what there is to print, and gives the string back. -/
theorem present_fresh (capacity : Nat) {t : Text} (hwf : t.isWellFormed = true) (hnul : 0 ∉ t) :
    ∃ world, Strings.createCallable.present (.fresh capacity) [.text t] .output
      = (world, [.output (Strings.printed capacity t)], some (.ok ())) := by
  have hp := provide_fresh capacity ((Memory.textBytes t).length + 1)
  rw [Strings.printed]
  by_cases hroom : (Memory.textBytes t).length + 1 < capacity
  · rw [if_neg (Nat.not_le.mpr hroom)] at hp
    rw [if_pos hroom]
    have hexact : ((Memory.fresh capacity).allocator Memory.defaultAllocator).IsExact := trivial
    obtain ⟨hcreated, hholds⟩ := Memory.createString_of_some hexact hnul hp
    have hheaps : Memory.HasLimits [.infinity false] (Memory.fresh capacity) :=
      Memory.hasLimits_ofLimits _ _
    obtain ⟨hlive, hback⟩ := Memory.releaseString_created hheaps hcreated
    have htext := hholds.text
    rw [Text.repair_of_isWellFormed hwf] at htext
    exact ⟨_, present_createString hcreated htext hlive hback .output⟩
  · rw [if_pos (Nat.le_of_not_lt hroom)] at hp
    rw [if_neg hroom]
    exact ⟨_, present_createString_of_none (Memory.createString_of_none hnul hp) .output⟩

/-- What a whole run that makes a string writes, and how it ends. -/
theorem whole_createString (capacity : Nat) (hoffers : host.OffersStrings source module) {t : Text}
    (hwf : t.isWellFormed = true) (hnul : 0 ∉ t) :
    ∃ world, Run.whole host (.fresh capacity) (createArguments t)
      = ([.output (Strings.printed capacity t)], ⟨world, .inr (.exited 0)⟩) := by
  obtain ⟨world, hpresent⟩ := present_fresh capacity hwf hnul
  have hcomplete := complete_call hpresent
  refine ⟨world, ?_⟩
  simp only [Run.whole, Run.start, prepare_createString hoffers, Run.stepsLeft, hcomplete,
    List.nil_append]

/-! ## A host with the library of strings and nothing else -/

/-- The path of the source in the smallest host. -/
def Strings.sourcePath : Text := "/lib/string-lib.d.ts"

/-- The path of the module in the smallest host. -/
def Strings.modulePath : Text := "/lib/string-lib.js"

/-- **The smallest host** that offers the library of strings. -/
def Host.smallest : Host where
  directory := "/"
  builtinPath := "/lib"
  isThere path := path == Strings.sourcePath || path == Strings.modulePath
  settings path := .error (.unreadable path)
  faults _ _ := []
  signatures _ path :=
    if path == Strings.sourcePath then some [Strings.createSignature, Strings.freeSignature]
    else none
  load path :=
    if path == Strings.modulePath then
      .ok (InstalledFile.routines
        [("createString", Strings.create), ("freeString", Strings.free)])
    else .ok []

theorem offersStrings_smallest :
    Host.smallest.OffersStrings Strings.sourcePath Strings.modulePath where
  found := by
    have hsource : Host.smallest.registry.findFile Host.smallest "string-lib"
        Registry.sourceEndings = some Strings.sourcePath := by decide
    have hmodule : Host.smallest.registry.findFile Host.smallest "string-lib"
        Registry.moduleEndings = some Strings.modulePath := by decide
    rw [Registry.findPaths, hsource, hmodule]
  faultless := rfl
  described := by decide
  loaded := rfl

/-! ## The result -/

/-- **A whole run that makes a string** ends with code `0` and writes one line. The line is the text
itself exactly when no byte order mark stands in front of it, and there is room for it. -/
theorem run_createString (host : Host) (source module : Text)
    (hoffers : host.OffersStrings source module) (capacity : Nat)
    (hcapacity : Memory.HasRoom capacity) (t : Text) (hwf : t.isWellFormed = true) (hnul : 0 ∉ t) :
    (Run.whole host (.fresh capacity) (createArguments t)).2.code? = some 0
      ∧ (Run.whole host (.fresh capacity) (createArguments t)).1
        = [.output (Strings.printed capacity t)]
      ∧ (Strings.printed capacity t = t
          ↔ t.head? ≠ some Text.mark ∧ (Memory.textBytes t).length + 1 < capacity) := by
  obtain ⟨world, hwhole⟩ := whole_createString capacity hoffers hwf hnul
  rw [hwhole]
  exact ⟨rfl, rfl, printed_eq_self_iff hcapacity t⟩

/-- A mark inside a text is printed like any other character. -/
theorem run_createString_inner_mark :
    (Run.whole Host.smallest .initial (createArguments [0xE9, 0xFEFF, 0xD83D, 0xDE00])).2.code?
        = some 0
      ∧ (Run.whole Host.smallest .initial (createArguments [0xE9, 0xFEFF, 0xD83D, 0xDE00])).1
        = [.output [0xE9, 0xFEFF, 0xD83D, 0xDE00]] := by
  obtain ⟨hcode, hlines, hsame⟩ := run_createString Host.smallest Strings.sourcePath
    Strings.modulePath offersStrings_smallest _ Memory.hasRoom_initial
    [0xE9, 0xFEFF, 0xD83D, 0xDE00] (by decide) (by decide)
  rw [hsame.mpr (by decide)] at hlines
  exact ⟨hcode, hlines⟩

/-- **A mark in front is lost**: a text of two characters is printed as one of one. -/
theorem run_createString_loses_mark :
    Text.isWellFormed [0xFEFF, 0x61] = true ∧ 0 ∉ ([0xFEFF, 0x61] : Text)
      ∧ (Run.whole Host.smallest .initial (createArguments [0xFEFF, 0x61])).1 = [.output [0x61]]
      ∧ ([0x61] : Text) ≠ [0xFEFF, 0x61] := by
  obtain ⟨world, hwhole⟩ := whole_createString Memory.initial.capacity offersStrings_smallest
    (t := [0xFEFF, 0x61]) (by decide) (by decide)
  have hprinted : Strings.printed Memory.initial.capacity [0xFEFF, 0x61] = [0x61] := by decide
  refine ⟨by decide, by decide, ?_, by decide⟩
  rw [hprinted] at hwhole
  exact congrArg Prod.fst hwhole

end Turnstile
