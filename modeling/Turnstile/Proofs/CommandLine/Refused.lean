import Turnstile.Proofs.CommandLine.Accepted

/-! # Why a line is refused

The first item with which something is wrong is what a line is refused for, then its ending, and
only when both are sound a library or a function that is missing.

* **`Refusal`** lists the reasons, in this order.
* **`parse_line_eq_error_iff`** says that they are the reasons of a line that is taken apart.
* **`parse_refuses`** says the same of any list of arguments, and that what is behind two dashes
  gives no offence. -/

namespace Turnstile.Invocation

variable {directory builtin : Text} {items : List Item} {ending : Ending} {fault : InvocationFault}

/-- **Why a line is refused.** -/
inductive Refusal (items : List Item) (ending : Ending) : InvocationFault → Prop where
  /-- For the first item with which something is wrong, -/
  | item {before after : List Item} {item : Item} {fault : InvocationFault}
      (split : items = before ++ item :: after) (first : ∀ i ∈ before, i.IsSound)
      (offends : item.Offends fault) : Refusal items ending fault
  /-- for an option at the end that has no value, -/
  | ending {fault : InvocationFault} (sound : ∀ item ∈ items, item.IsSound)
      (offends : ending.Offends fault) : Refusal items ending fault
  /-- when nothing is wrong for a library that is missing, -/
  | library (sound : ∀ item ∈ items, item.IsSound) (soundEnding : ending.IsSound)
      (help : .help ∉ givenFlags items) (missing : IsMissing (operands items ending) 0) :
    Refusal items ending .libraryRequired
  /-- and when there is a library for a function that is missing. -/
  | function (sound : ∀ item ∈ items, item.IsSound) (soundEnding : ending.IsSound)
      (help : .help ∉ givenFlags items) (given : ¬ IsMissing (operands items ending) 0)
      (list : .list ∉ givenFlags items) (missing : IsMissing (operands items ending) 1) :
    Refusal items ending .functionRequired

/-- Reading ends at the first item with which something is wrong. -/
theorem scan_line_item {before after : List Item} {item : Item} (hfirst : ∀ i ∈ before, i.IsSound)
    (hoffends : item.Offends fault) :
    scan {} (line (before ++ item :: after) ending) = .error fault := by
  rw [line_append, scan_items {} hfirst, line_cons, scan_offence _ hoffends]

/-- Reading ends at an option without a value. -/
theorem scan_line_ending (hsound : ∀ item ∈ items, item.IsSound) (hoffends : ending.Offends fault) :
    scan {} (line items ending) = .error fault := by
  rw [line, scan_items {} hsound, scan_ending_offence _ hoffends]

/-- What cannot be read is refused. -/
theorem parse_eq_error_of_scan {arguments : List Text} (h : scan {} arguments = .error fault) :
    parse directory builtin arguments = .error fault := by
  rw [parse, h]

/-- **A line is refused for each of the reasons.** -/
theorem Refusal.parse_eq (h : Refusal items ending fault) :
    parse directory builtin (line items ending) = .error fault := by
  cases h with
  | item split first offends =>
    rw [split]
    exact parse_eq_error_of_scan (scan_line_item first offends)
  | ending sound offends => exact parse_eq_error_of_scan (scan_line_ending sound offends)
  | library sound soundEnding help missing =>
    rw [parse_line_eq sound soundEnding, missing?_eq, if_neg help, if_pos missing]
  | function sound soundEnding help given list missing =>
    rw [parse_line_eq sound soundEnding, missing?_eq, if_neg help, if_neg given,
      if_pos ⟨list, missing⟩]

/-- Either all items are sound or there is a first one with which something is wrong. -/
theorem sound_or_first_offence (items : List Item) :
    (∀ item ∈ items, item.IsSound) ∨ ∃ before item after fault,
      items = before ++ item :: after ∧ (∀ i ∈ before, i.IsSound) ∧ item.Offends fault := by
  induction items with
  | nil => exact Or.inl nofun
  | cons item items ih =>
    by_cases hsound : item.IsSound
    · obtain hall | ⟨before, other, after, fault, hsplit, hfirst, hoffends⟩ := ih
      · exact Or.inl (List.forall_mem_cons.mpr ⟨hsound, hall⟩)
      · refine Or.inr ⟨item :: before, other, after, fault, ?_, ?_, hoffends⟩
        · rw [hsplit, List.cons_append]
        · exact List.forall_mem_cons.mpr ⟨hsound, hfirst⟩
    · obtain ⟨fault, hoffends⟩ := Classical.not_forall_not.mp hsound
      exact Or.inr ⟨[], item, items, fault, rfl, nofun, hoffends⟩

/-- **A line without a reason to refuse it is sound and complete.** -/
theorem refusal_or_accepted (items : List Item) (ending : Ending) :
    (∃ fault, Refusal items ending fault)
    ∨ (∀ item ∈ items, item.IsSound) ∧ ending.IsSound ∧ IsComplete items ending := by
  obtain hsound | ⟨before, item, after, fault, hsplit, hfirst, hoffends⟩ :=
    sound_or_first_offence items
  · by_cases hending : ending.IsSound
    · by_cases hcomplete : IsComplete items ending
      · exact Or.inr ⟨hsound, hending, hcomplete⟩
      · refine Or.inl ?_
        by_cases help : .help ∈ givenFlags items
        · exact absurd ⟨fun h => absurd help h, fun h => absurd help h⟩ hcomplete
        · by_cases hlibrary : IsMissing (operands items ending) 0
          · exact ⟨_, .library hsound hending help hlibrary⟩
          · -- What is missing is a function then, and a list needs none.
            have hfunction : ¬ (.list ∉ givenFlags items → ¬ IsMissing (operands items ending) 1) :=
              fun h => hcomplete ⟨fun _ => hlibrary, fun _ => h⟩
            obtain ⟨hlist, hmissing⟩ := Classical.not_imp.mp hfunction
            exact ⟨_, .function hsound hending help hlibrary hlist (Classical.not_not.mp hmissing)⟩
    · obtain ⟨fault, hoffends⟩ := Classical.not_forall_not.mp hending
      exact Or.inl ⟨fault, .ending hsound hoffends⟩
  · exact Or.inl ⟨fault, .item hsplit hfirst hoffends⟩

/-- **A line is refused for these reasons and no others.** -/
theorem parse_line_eq_error_iff :
    parse directory builtin (line items ending) = .error fault ↔ Refusal items ending fault := by
  constructor
  · intro hparse
    obtain ⟨other, hrefusal⟩ | ⟨hsound, hending, hcomplete⟩ := refusal_or_accepted items ending
    · have hother : parse directory builtin (line items ending) = .error other :=
        hrefusal.parse_eq
      obtain rfl : other = fault := Except.error.inj (hother.symm.trans hparse)
      exact hrefusal
    · rw [parse_line_eq_ok hsound hending hcomplete] at hparse
      exact absurd hparse nofun
  · exact Refusal.parse_eq

/-- An argument that is refused as an unknown option is one. -/
theorem isUnknown_of_parse {arguments : List Text} {argument : Text}
    (h : parse directory builtin arguments = .error (.unknownOption argument)) :
    IsUnknown argument := by
  obtain ⟨items, ending, rfl⟩ := exists_line arguments
  cases parse_line_eq_error_iff.mp h with
  | item _ _ offends =>
    cases offends with
    | unknown => assumption
  | ending _ offends => exact absurd offends nofun

/-- An accepted line is taken for what it asks for. -/
theorem askedBy_of_parse {i : Invocation}
    (h : parse directory builtin (line items ending) = .ok i) :
    AskedBy directory builtin items ending i := by
  obtain ⟨fault, hrefusal⟩ | ⟨hsound, hending, hcomplete⟩ := refusal_or_accepted items ending
  · exact absurd (h.symm.trans hrefusal.parse_eq) nofun
  · rw [parse_line_eq_ok hsound hending hcomplete] at h
    rw [← Except.ok.inj h]
    exact askedBy_ofReading directory builtin items ending

/-- An offence on a line with two dashes is one of the items, whatever is behind the dashes. -/
theorem Refusal.terminated {rest rest' : List Text} (h : Refusal items (.terminated rest) fault)
    (hlibrary : fault ≠ .libraryRequired) (hfunction : fault ≠ .functionRequired) :
    Refusal items (.terminated rest') fault := by
  cases h with
  | item split first offends => exact .item split first offends
  | ending _ offends => exact absurd offends nofun
  | library => exact absurd rfl hlibrary
  | function => exact absurd rfl hfunction

/-- **Arguments are refused for the leftmost offence, and for what is missing only when there is
none.** They fall apart into items and an ending in one way, and an argument behind the two dashes is
no offence. -/
theorem parse_refuses (directory builtin : Text) (arguments : List Text) :
    ∃ items ending, arguments = line items ending
      ∧ (∀ items' ending', arguments = line items' ending' → items' = items ∧ ending' = ending)
      ∧ (∀ fault, parse directory builtin arguments = .error fault ↔ Refusal items ending fault)
      ∧ ∀ rest, ending = .terminated rest →
          ∀ fault, parse directory builtin arguments = .error fault →
            fault ≠ .libraryRequired → fault ≠ .functionRequired →
            ∀ rest', parse directory builtin (line items (.terminated rest')) = .error fault := by
  obtain ⟨items, ending, rfl⟩ := exists_line arguments
  refine ⟨items, ending, rfl, fun _ _ h => line_inj h.symm, fun _ => parse_line_eq_error_iff, ?_⟩
  rintro rest rfl fault hparse hlibrary hfunction rest'
  exact ((parse_line_eq_error_iff.mp hparse).terminated hlibrary hfunction).parse_eq

/-- A value is no offence, whatever it looks like, and the first offence counts. -/
example : parse "/" "/" (["-p", "--bad", "-n", "--help", "-x"] : List Text)
    = .error (.invalidRepetitions "--help") := rfl

end Turnstile.Invocation
