import Mathlib.Data.List.Basic
import Turnstile.Installation
import Turnstile.Proofs.Library.Session
import Turnstile.Proofs.Source.DescribedNames

/-! # Functions that are listed and functions that can be called

A library lists what its source declares, and a function that can be called is one that its module
hands out too. The source and the module are two files, or one that declares more than it hands out,
so a library may list functions that cannot be called.

* **`Host.NamesApart`** says that a source describes every name once, and
  **`Installation.namesApart_host`** that the sources of an installation do.
* **`Registry.IsAsFound`** says that the libraries of a registry are what their files say, and
  **`isAsFound_run`** that this holds after every run.
* **`Session.callable_iff_listed_and_handed_out`** says which functions can be called, and when these
  are all that are listed. -/

namespace Turnstile

variable {host : Host} {name lib : Text} {library : Library}

/-! ## What is found -/

/-- A host whose sources describe every name once. -/
def Host.NamesApart (host : Host) : Prop :=
  ∀ options path signatures, host.signatures options path = some signatures →
    (signatures.map (·.name)).Nodup

/-- **The sources of an installation describe every name once.** -/
theorem Installation.namesApart_host (i : Installation) (directory : Text) :
    (i.host directory).NamesApart :=
  fun _ _ _ h => Source.Program.nodup_signatures h

/-- Whether the module at a path hands out a routine under a name. -/
def Host.HandsOut (host : Host) (modulePath name : Text) (target : Routine) : Prop :=
  ∃ exports, host.load modulePath = .ok exports ∧ exports.lookup name = some (.routine target)

/-- A library is what its source and its module say. -/
structure Library.IsAsFound (host : Host) (library : Library) : Prop where
  described : ∃ options, host.signatures options library.sourcePath = some library.signatures
  loaded : host.load library.modulePath = .ok library.exports

/-- Every library of a registry is what its files say. -/
def Registry.IsAsFound (host : Host) (r : Registry) : Prop :=
  ∀ entry ∈ r.loaded, entry.2.IsAsFound host

/-- What is described is what the source says. -/
theorem signatures_of_describe {r : Registry} {path : Text} {signatures : List Signature}
    (h : r.describe host path = .ok signatures) :
    host.signatures r.options path = some signatures := by
  rw [Registry.describe] at h
  split at h
  · next found hfound => rw [hfound, Except.ok.inj h]
  · exact absurd h nofun

/-- What is loaded is what the module hands out. -/
theorem load_of_loadModule {path : Text} {exports : List (Text × Export)}
    (h : Registry.loadModule host name path = .ok exports) : host.load path = .ok exports := by
  rw [Registry.loadModule] at h
  split at h
  · next found hfound => rw [hfound, Except.ok.inj h]
  · exact absurd h nofun

/-- **A library that is found is what its files say.** -/
theorem isAsFound_of_find {r : Registry} (h : r.find host name = .ok library) :
    library.IsAsFound host := by
  simp only [Registry.find, bind, Except.bind] at h
  -- Each stage ends the search or goes on to the next one.
  split at h
  · cases h
  split at h
  · cases h
  split at h
  · cases h
  next signatures hdescribe =>
    split at h
    · cases h
    next exports hload =>
      rw [← Except.ok.inj h]
      exact ⟨⟨r.options, signatures_of_describe hdescribe⟩, load_of_loadModule hload⟩

/-- A step keeps the libraries what their files say. -/
theorem Registry.Change.isAsFound {r r' : Registry} {step : Session.Step}
    (h : Change host r step r') (hr : r.IsAsFound host) : r'.IsAsFound host := by
  cases h with
  | keep => exact hr
  | move path => exact hr
  | add name library found => exact List.forall_mem_cons.mpr ⟨isAsFound_of_find found, hr⟩

/-- **In every session the libraries are what their files say.** -/
theorem isAsFound_run {s : Session} (hs : s.registry.IsAsFound host) (steps : List Session.Step) :
    (s.run host steps).1.registry.IsAsFound host := by
  induction steps generalizing s with
  | nil => exact hs
  | cons step rest ih => exact ih ((Session.perform_change host s step).isAsFound hs)

/-! ## What can be called -/

/-- Of signatures with different names, one with a name is the one that is found under it. -/
theorem find?_name_eq_some_iff {signatures : List Signature} {signature : Signature}
    (hnames : (signatures.map (·.name)).Nodup) :
    signatures.find? (·.name == name) = some signature
      ↔ signature ∈ signatures ∧ signature.name = name := by
  constructor
  · intro h
    exact ⟨List.mem_of_find?_eq_some h, by simpa using List.find?_some h⟩
  · rintro ⟨hmem, rfl⟩
    cases hfound : signatures.find? (·.name == signature.name) with
    | none => exact absurd (List.find?_eq_none.mp hfound signature hmem) (by simp)
    | some other =>
      have hname : other.name = signature.name := by simpa using List.find?_some hfound
      rw [List.inj_on_of_nodup_map hnames (List.mem_of_find?_eq_some hfound) hmem hname]

/-- **A callable of a library is a listed signature with a routine that the module hands out.** -/
theorem callableIn_eq_ok_iff_of_isAsFound (hfound : library.IsAsFound host)
    (hnames : host.NamesApart) {c : Callable} :
    Registry.callableIn library lib name = .ok c
      ↔ c.library = lib ∧ (c.signature ∈ library.signatures ∧ c.signature.name = name)
        ∧ host.HandsOut library.modulePath name c.target := by
  obtain ⟨options, hdescribed⟩ := hfound.described
  rw [Registry.callableIn_eq_ok_iff, find?_name_eq_some_iff (hnames _ _ _ hdescribed)]
  simp only [Host.HandsOut, hfound.loaded, Except.ok.injEq, exists_eq_left']

/-- What is not a callable of a library is refused by its name. -/
theorem callableIn_eq_error (h : ∀ c, Registry.callableIn library lib name ≠ .ok c) :
    Registry.callableIn library lib name = .error (.noFunction name lib) := by
  rw [Registry.callableIn] at h ⊢
  split
  · next hsignature htarget =>
    rw [hsignature, htarget] at h
    exact absurd rfl (h _)
  · rfl

/-- The library of a name is the one that is loaded under it. -/
theorem library_eq_ok_iff {r : Registry} :
    r.library lib = .ok library ↔ r.loaded.lookup lib = some library := by
  rw [Registry.library]
  cases r.loaded.lookup lib with
  | none =>
    constructor
    · intro h
      cases h
    · intro h
      cases h
  | some found => rw [Except.ok.injEq, Option.some.injEq]

/-- A name is answered with the callable of the library that is loaded. -/
theorem answer_callable_iff {s : Session} (hloaded : s.registry.loaded.lookup lib = some library)
    {c : Callable} :
    s.answer host lib (.callable name) = .ok (.callable c)
      ↔ Registry.callableIn library lib name = .ok c := by
  rw [Session.answer_callable_eq_ok_iff, hloaded]
  simp only [Option.some.injEq, exists_eq_left']

/-- **A function can be called when it is listed and handed out.** In every session a library lists
the signatures of its source. A name is answered with a callable exactly when one of them has it and
the module hands out a routine under it; the callable has that signature and that routine, and any
other name is refused. So all that is listed can be called exactly when the module hands out a
routine for each signature. -/
theorem Session.callable_iff_listed_and_handed_out (host : Host) (hnames : host.NamesApart)
    (libraryPath settingsPath : Option Text) (skipCheck : Bool) (start : Session)
    (hopened : Registry.opened host libraryPath settingsPath skipCheck = .ok start.registry)
    (steps : List Step) (s : Session) (hs : s = (start.run host steps).1) (lib : Text)
    (library : Library) (hloaded : s.registry.library lib = .ok library) :
    s.answer host lib .functions = .ok (.signatures library.signatures)
      ∧ (∀ name, (∃ c, s.answer host lib (.callable name) = .ok (.callable c))
          ↔ (∃ signature ∈ library.signatures, signature.name = name)
            ∧ ∃ target, host.HandsOut library.modulePath name target)
      ∧ (∀ name c, s.answer host lib (.callable name) = .ok (.callable c) →
          c.library = lib ∧ c.signature ∈ library.signatures
            ∧ (∀ signature ∈ library.signatures, signature.name = name → signature = c.signature)
            ∧ host.HandsOut library.modulePath name c.target)
      ∧ (∀ name, (∀ c, s.answer host lib (.callable name) ≠ .ok (.callable c)) →
          s.answer host lib (.callable name) = .error (LibraryFault.noFunction name lib).toValue)
      ∧ ((∀ signature ∈ library.signatures,
            ∃ c, s.answer host lib (.callable signature.name) = .ok (.callable c))
          ↔ ∀ signature ∈ library.signatures,
              ∃ target, host.HandsOut library.modulePath signature.name target) := by
  rw [library_eq_ok_iff] at hloaded
  have hfound : library.IsAsFound host := by
    have hall : s.registry.IsAsFound host := by
      rw [hs]
      refine isAsFound_run (fun entry hentry => ?_) steps
      rw [Session.loaded_of_opened hopened] at hentry
      exact absurd hentry List.not_mem_nil
    obtain ⟨before, after, hsplit, -⟩ := List.lookup_eq_some_iff.mp hloaded
    exact hall (lib, library) (by rw [hsplit]; exact List.mem_append_right _ List.mem_cons_self)
  have hcallable : ∀ name c, s.answer host lib (.callable name) = .ok (.callable c)
      ↔ c.library = lib ∧ (c.signature ∈ library.signatures ∧ c.signature.name = name)
        ∧ host.HandsOut library.modulePath name c.target := fun name c => by
    rw [answer_callable_iff hloaded, callableIn_eq_ok_iff_of_isAsFound hfound hnames]
  have hexists : ∀ name, (∃ c, s.answer host lib (.callable name) = .ok (.callable c))
      ↔ (∃ signature ∈ library.signatures, signature.name = name)
        ∧ ∃ target, host.HandsOut library.modulePath name target := by
    intro name
    simp only [hcallable]
    constructor
    · rintro ⟨c, -, hlisted, htarget⟩
      exact ⟨⟨c.signature, hlisted⟩, c.target, htarget⟩
    · rintro ⟨⟨signature, hlisted⟩, target, htarget⟩
      exact ⟨⟨lib, signature, target⟩, rfl, hlisted, htarget⟩
  refine ⟨?_, hexists, fun name c hanswer => ?_, fun name hnone => ?_, ?_⟩
  · rw [Session.answer_eq, hloaded]
    rfl
  · obtain ⟨hlib, ⟨hmem, hname⟩, htarget⟩ := (hcallable name c).mp hanswer
    refine ⟨hlib, hmem, fun signature hsignature hsame => ?_, htarget⟩
    obtain ⟨options, hdescribed⟩ := hfound.described
    exact List.inj_on_of_nodup_map (hnames _ _ _ hdescribed) hsignature hmem (hsame.trans hname.symm)
  · have hrefused := callableIn_eq_error fun c hc => hnone c ((answer_callable_iff hloaded).mpr hc)
    rw [Session.answer_eq, hloaded]
    simp only [Session.answerOf, hrefused]
    rfl
  · refine forall₂_congr fun signature hsignature => ?_
    rw [hexists, and_iff_right ⟨signature, hsignature, rfl⟩]

/-! ## A library that declares more than it hands out -/

namespace Host

theorem namesApart_offering : (offering declared handedOut).NamesApart := by
  rintro options path signatures h
  simp only [offering] at h
  split at h
  · obtain rfl := Option.some.inj h
    decide
  · exact absurd h nofun

/-- The library is there after it was added. -/
theorem library_kit (signatures : List Signature) (exports : List (Text × Export)) :
    (kitSession.run (offering signatures exports) [.add "kit"]).1.registry.library "kit"
      = .ok (kit signatures exports) := by
  rw [library_eq_ok_iff, Session.loaded_run_of_opened opened_offering, Session.additions,
    Session.additions, Session.addition?, find_offering]
  rfl

end Host

namespace Session

/-- A function that is declared and handed out can be called. -/
theorem callable_iff_listed_and_handed_out_kit :
    (Host.offering Host.declared Host.handedOut).NamesApart
      ∧ ∃ c, (Host.kitSession.run (.offering Host.declared Host.handedOut) [.add "kit"]).1.answer
          (.offering Host.declared Host.handedOut) "kit" (.callable "who") = .ok (.callable c) := by
  obtain ⟨-, hcallable, -⟩ := callable_iff_listed_and_handed_out _ Host.namesApart_offering none none
    false Host.kitSession Host.opened_offering [.add "kit"] _ rfl "kit" _ (Host.library_kit _ _)
  refine ⟨Host.namesApart_offering, (hcallable "who").mpr ⟨⟨_, List.mem_cons_self, rfl⟩, ?_⟩⟩
  exact ⟨_, Host.handedOut, rfl, rfl⟩

/-- **A function can be listed and not be there to be called**: it is declared in the source of a
library that was added, and the module hands nothing out under its name. -/
theorem listed_without_callable :
    ∃ s, s = (Host.kitSession.run (.offering Host.declared Host.handedOut) [.add "kit"]).1
      ∧ s.answer (.offering Host.declared Host.handedOut) "kit" .functions
        = .ok (.signatures Host.declared)
      ∧ (∃ signature ∈ Host.declared, signature.name = "missing")
      ∧ ¬ ∃ c, s.answer (.offering Host.declared Host.handedOut) "kit" (.callable "missing")
          = .ok (.callable c) := by
  have hlookup := library_eq_ok_iff.mp (Host.library_kit Host.declared Host.handedOut)
  refine ⟨_, rfl, ?_, ⟨⟨"missing", [], "void", .void⟩, by decide, rfl⟩, ?_⟩
  · rw [answer_eq, hlookup]
    rfl
  · rintro ⟨c, hc⟩
    rw [answer_callable_iff hlookup] at hc
    have hnone : Registry.callableIn (Host.kit Host.declared Host.handedOut) "kit" "missing"
        = .error (.noFunction "missing" "kit") := rfl
    rw [hnone] at hc
    exact absurd hc nofun

end Session

end Turnstile
