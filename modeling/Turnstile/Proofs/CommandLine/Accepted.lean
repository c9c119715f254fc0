import Mathlib.Logic.Relation
import Turnstile.Proofs.CommandLine.Reading

/-! # What an accepted line asks for

A line with which nothing is wrong, and in which nothing is missing, asks for what its items say: a
flag is set by being there, of the values for an option the last one counts, and the operands are the
library, the function and its arguments, in this order.

* **`IsComplete`** says that nothing is missing.
* **`AskedBy`** says what a line asks for.
* **`Moved`** moves an option past other items.
* **`parse_line`** says that an accepted line is read as what it asks for, and that moving an option
  changes nothing. -/

namespace Turnstile.Invocation

variable {directory builtin : Text} {items items' : List Item} {ending : Ending}

/-! ## What is missing -/

/-- An operand that is **missing** or blank. -/
def IsMissing (operands : List Text) (place : Nat) : Prop :=
  operands[place]? = none ∨ operands[place]? = some []

instance (operands : List Text) (place : Nat) : Decidable (IsMissing operands place) :=
  inferInstanceAs (Decidable (_ ∨ _))

theorem isGiven_eq_false_iff {name : Option Text} :
    isGiven name = false ↔ name = none ∨ name = some [] := by
  cases name <;> simp [isGiven]

/-- **Nothing is missing**: help needs nothing, a list of functions a library, and anything else a
function too. -/
structure IsComplete (items : List Item) (ending : Ending) : Prop where
  library : .help ∉ givenFlags items → ¬ IsMissing (operands items ending) 0
  function : .help ∉ givenFlags items → .list ∉ givenFlags items →
    ¬ IsMissing (operands items ending) 1

/-- What is read of a line. -/
def readingOf (items : List Item) (ending : Ending) : Reading :=
  (({} : Reading).withAll items).addPositional ending.positional

theorem mem_flags_readingOf {flag : Flag} :
    (readingOf items ending).flags.contains flag = true ↔ flag ∈ givenFlags items := by
  simp [readingOf, Reading.addPositional, Reading.withAll]

theorem positional_readingOf : (readingOf items ending).positional = operands items ending := by
  simp [readingOf, Reading.addPositional, Reading.withAll, operands]

/-- **A line with which nothing is wrong is read**, and then looked through for what is missing. -/
theorem parse_line_eq (hitems : ∀ item ∈ items, item.IsSound) (hending : ending.IsSound) :
    parse directory builtin (line items ending)
      = match (readingOf items ending).missing? with
        | some fault => .error fault
        | none => .ok (ofReading directory builtin (readingOf items ending)) := by
  have hscan : scan {} (line items ending) = .ok (readingOf items ending) := by
    rw [line, scan_items {} hitems, foldl_with, scan_ending _ hending, readingOf]
  cases hmissing : (readingOf items ending).missing? with
  | none => simp only [parse, hscan, hmissing]
  | some fault => simp only [parse, hscan, hmissing]

/-- What is missing, in terms of the items. -/
theorem missing?_eq : (readingOf items ending).missing? =
    if .help ∈ givenFlags items then none
    else if IsMissing (operands items ending) 0 then some .libraryRequired
    else if .list ∉ givenFlags items ∧ IsMissing (operands items ending) 1 then
      some .functionRequired
    else none := by
  rw [Reading.missing?, positional_readingOf]
  simp only [mem_flags_readingOf, Bool.and_eq_true, Bool.not_eq_true', ← Bool.not_eq_true,
    IsMissing, ← isGiven_eq_false_iff]

theorem missing?_eq_none (hcomplete : IsComplete items ending) :
    (readingOf items ending).missing? = none := by
  rw [missing?_eq]
  split
  · rfl
  · next hhelp =>
    rw [if_neg (hcomplete.library hhelp), if_neg]
    rintro ⟨hlist, hmissing⟩
    exact hcomplete.function hhelp hlist hmissing

/-- A line with which nothing is wrong and in which nothing is missing is accepted. -/
theorem parse_line_eq_ok (hitems : ∀ item ∈ items, item.IsSound) (hending : ending.IsSound)
    (hcomplete : IsComplete items ending) :
    parse directory builtin (line items ending)
      = .ok (ofReading directory builtin (readingOf items ending)) := by
  rw [parse_line_eq hitems hending, missing?_eq_none hcomplete]

/-! ## What is asked for -/

/-- **The operands of an invocation**: the library, the function and its arguments in a row. -/
def operandList (i : Invocation) : List Text := i.library :: (i.function.toList ++ i.arguments)

/-- **What a line asks for.** -/
structure AskedBy (directory builtin : Text) (items : List Item) (ending : Ending)
    (i : Invocation) : Prop where
  /-- Each flag is set exactly when it is there. -/
  list : i.list = true ↔ .list ∈ givenFlags items
  profile : i.profile = true ↔ .profile ∈ givenFlags items
  skipCheck : i.skipCheck = true ↔ .skipCheck ∈ givenFlags items
  verbose : i.verbose = true ↔ .verbose ∈ givenFlags items
  help : i.help = true ↔ .help ∈ givenFlags items
  /-- The last directory of libraries counts, without one the built-in one. -/
  libraryPath : i.libraryPath
    = Path.resolve directory ((givenValues .libraryPath items).getLast?.getD builtin)
  /-- The last settings path counts; a blank one is none. -/
  settingsPath : i.settingsPath
    = ((givenValues .settingsPath items).getLast?.filter (· ≠ [])).map (Path.resolve directory)
  /-- The last number of repetitions counts, without one it is one. -/
  repetitions : i.repetitions
    = ((givenValues .repetitions items).getLast?.map Numeral.number).getD 1
  /-- The operands are the library, -/
  library : i.library = (operands items ending)[0]?.getD []
  /-- the function, -/
  function : i.function = (operands items ending)[1]?
  /-- and its arguments, -/
  arguments : i.arguments = (operands items ending).drop 2
  /-- and that is all of them. -/
  together : operands items ending ≠ [] → i.operandList = operands items ending

/-- The library, the function and its arguments are all operands, unless there are none. -/
theorem library_function_arguments {row : List Text} (hne : row ≠ []) :
    (row[0]?).getD [] :: ((row[1]?).toList ++ row.drop 2) = row := by
  cases row with
  | nil => exact absurd rfl hne
  | cons library rest => cases rest <;> rfl

/-- What is read of a line is what it asks for. -/
theorem askedBy_ofReading (directory builtin : Text) (items : List Item) (ending : Ending) :
    AskedBy directory builtin items ending
      (ofReading directory builtin (readingOf items ending)) := by
  have hpositional : (readingOf items ending).positional = operands items ending :=
    positional_readingOf
  refine ⟨mem_flags_readingOf, mem_flags_readingOf, mem_flags_readingOf, mem_flags_readingOf,
    mem_flags_readingOf, ?_, ?_, ?_, ?_, ?_, ?_, ?_⟩
  · simp [ofReading, readingOf, Reading.addPositional, Reading.withAll]
  · simp only [ofReading, readingOf, Reading.addPositional, Reading.withAll, Option.or_none]
    cases (givenValues .settingsPath items).getLast? with
    | none => rfl
    | some path => cases path <;> simp [Option.filter]
  · simp [ofReading, readingOf, Reading.addPositional, Reading.withAll]
  · rw [ofReading, hpositional]
  · rw [ofReading, hpositional]
  · rw [ofReading, hpositional]
  · intro hne
    simp only [operandList, ofReading, hpositional]
    exact library_function_arguments hne

/-! ## Moving an option -/

/-- **An option moved**, with its value, past items that give no value to the same option. -/
inductive Moved : List Item → List Item → Prop where
  | right {before between after : List Item} {item : Item} (option : item.positional? = none)
      (apart : ∀ o, item.value? o ≠ none → givenValues o between = []) :
    Moved (before ++ item :: (between ++ after)) (before ++ (between ++ item :: after))
  | left {before between after : List Item} {item : Item} (option : item.positional? = none)
      (apart : ∀ o, item.value? o ≠ none → givenValues o between = []) :
    Moved (before ++ (between ++ item :: after)) (before ++ item :: (between ++ after))

/-- **Items that say the same**: the same flags in any order, and the same values and positional
arguments in the same order. -/
structure SaysTheSame (items items' : List Item) : Prop where
  sound : (∀ item ∈ items, item.IsSound) ↔ ∀ item ∈ items', item.IsSound
  flags : ∀ flag, flag ∈ givenFlags items ↔ flag ∈ givenFlags items'
  values : ∀ option, givenValues option items = givenValues option items'
  positional : givenPositional items = givenPositional items'

namespace SaysTheSame

theorem refl (items : List Item) : SaysTheSame items items :=
  ⟨Iff.rfl, fun _ => Iff.rfl, fun _ => rfl, rfl⟩

theorem symm (h : SaysTheSame items items') : SaysTheSame items' items :=
  ⟨h.sound.symm, fun flag => (h.flags flag).symm, fun option => (h.values option).symm,
    h.positional.symm⟩

theorem trans {items'' : List Item} (h : SaysTheSame items items')
    (h' : SaysTheSame items' items'') : SaysTheSame items items'' :=
  ⟨h.sound.trans h'.sound, fun flag => (h.flags flag).trans (h'.flags flag),
    fun option => (h.values option).trans (h'.values option), h.positional.trans h'.positional⟩

/-- What an option says does not depend on its place. -/
theorem right {before between after : List Item} {item : Item} (option : item.positional? = none)
    (apart : ∀ o, item.value? o ≠ none → givenValues o between = []) :
    SaysTheSame (before ++ item :: (between ++ after)) (before ++ (between ++ item :: after)) where
  sound := by
    have hperm : (before ++ item :: (between ++ after)).Perm
        (before ++ (between ++ item :: after)) :=
      List.perm_middle.symm.append_left before
    exact ⟨fun h i hi => h i (hperm.mem_iff.mpr hi), fun h i hi => h i (hperm.mem_iff.mp hi)⟩
  flags flag := by
    simp only [givenFlags, List.filterMap_append, filterMap_cons_toList, List.mem_append]
    exact or_congr_right or_left_comm
  values o := by
    simp only [givenValues, List.filterMap_append, filterMap_cons_toList]
    -- An item that gives a value to this option finds no other value for it on its way.
    by_cases hvalue : item.value? o = none
    · rw [hvalue, Option.toList_none, List.nil_append, List.nil_append]
    · have hbetween : between.filterMap (Item.value? o) = [] := apart o hvalue
      rw [hbetween, List.nil_append, List.nil_append]
  positional := by
    simp only [givenPositional, List.filterMap_append, filterMap_cons_toList, option,
      Option.toList_none, List.nil_append]

/-- **An option moved** says what it said. -/
theorem of_moved (h : Moved items items') : SaysTheSame items items' := by
  cases h with
  | right option apart => exact right option apart
  | left option apart => exact (right option apart).symm

/-- Options moved one after the other say what they said. -/
theorem of_moves (h : Relation.ReflTransGen Moved items items') : SaysTheSame items items' := by
  induction h with
  | refl => exact refl items
  | tail _ hmoved ih => exact ih.trans (of_moved hmoved)

end SaysTheSame

/-- What is read of items that say the same differs in the order of the flags at most. -/
theorem SaysTheSame.readingOf_eq (h : SaysTheSame items items') (ending : Ending) :
    readingOf items' ending
      = { readingOf items ending with flags := (readingOf items' ending).flags } := by
  simp only [readingOf, Reading.addPositional, Reading.withAll, h.values, h.positional]

/-- Only which flags are there counts. -/
theorem SaysTheSame.contains_eq (h : SaysTheSame items items') (ending : Ending) (flag : Flag) :
    (readingOf items' ending).flags.contains flag
      = (readingOf items ending).flags.contains flag := by
  rw [Bool.eq_iff_iff, mem_flags_readingOf, mem_flags_readingOf, h.flags]

/-- **Items that say the same are read alike.** -/
theorem SaysTheSame.parse_eq (h : SaysTheSame items items') (hitems : ∀ item ∈ items, item.IsSound)
    (hending : ending.IsSound) :
    parse directory builtin (line items' ending) = parse directory builtin (line items ending) := by
  have hmissing : (readingOf items' ending).missing? = (readingOf items ending).missing? := by
    rw [h.readingOf_eq ending]
    simp only [Reading.missing?, h.contains_eq ending]
  have hof : ofReading directory builtin (readingOf items' ending)
      = ofReading directory builtin (readingOf items ending) := by
    rw [h.readingOf_eq ending]
    simp only [ofReading, h.contains_eq ending]
  rw [parse_line_eq hitems hending, parse_line_eq (h.sound.mp hitems) hending, hmissing, hof]

/-! ## Accepted lines -/

/-- **A line with which nothing is wrong and in which nothing is missing is read as what it asks
for**, and it makes no difference where between the items its options stand. -/
theorem parse_line (hitems : ∀ item ∈ items, item.IsSound) (hending : ending.IsSound)
    (hcomplete : IsComplete items ending) :
    (∃ i, parse directory builtin (line items ending) = .ok i
      ∧ AskedBy directory builtin items ending i)
    ∧ ∀ items', Relation.ReflTransGen Moved items items' →
        parse directory builtin (line items' ending)
          = parse directory builtin (line items ending) := by
  constructor
  · exact ⟨_, parse_line_eq_ok hitems hending hcomplete,
      askedBy_ofReading directory builtin items ending⟩
  · intro items' hmoves
    exact (SaysTheSame.of_moves hmoves).parse_eq hitems hending

/-- Items with two dashes for a value, an option given twice and a negative number. -/
def mixedItems : List Item :=
  [.valued "-p" .settingsPath "--" (by decide), .positional "fib" (by decide),
   .valued "-n" .repetitions " 5 " (by decide), .flag "--profile" .profile (by decide),
   .positional "fibonacci" (by decide), .positional "-3" (by decide),
   .valued "--project" .settingsPath "" (by decide)]

theorem parse_line_mixedItems :
    (∀ item ∈ mixedItems, item.IsSound) ∧ (Ending.terminated ["--list"]).IsSound
    ∧ IsComplete mixedItems (.terminated ["--list"])
    ∧ line mixedItems (.terminated ["--list"])
        = (["-p", "--", "fib", "-n", " 5 ", "--profile", "fibonacci", "-3", "--project", "", "--",
            "--list"] : List Text)
    ∧ ∃ i, parse "/home" "/lib" (line mixedItems (.terminated ["--list"])) = .ok i
        ∧ i.library = "fib" ∧ i.function = some "fibonacci"
        ∧ i.arguments = (["-3", "--list"] : List Text) ∧ i.settingsPath = none
        ∧ i.repetitions = 5 ∧ i.profile = true ∧ i.list = false := by
  have hitems : ∀ item ∈ mixedItems, item.IsSound := by decide +kernel
  have hending : (Ending.terminated ["--list"]).IsSound := by decide
  have hcomplete : IsComplete mixedItems (.terminated ["--list"]) :=
    ⟨fun _ => by decide, fun _ _ => by decide⟩
  obtain ⟨⟨i, hparse, hasked⟩, -⟩ :=
    @parse_line "/home" "/lib" mixedItems _ hitems hending hcomplete
  refine ⟨hitems, hending, hcomplete, by decide, i, hparse, ?_, ?_, ?_, ?_, ?_, ?_, ?_⟩
  · exact hasked.library
  · exact hasked.function
  · exact hasked.arguments
  · exact hasked.settingsPath
  · rw [hasked.repetitions]
    decide +kernel
  · exact hasked.profile.mpr (by decide)
  · exact Bool.eq_false_iff.mpr fun hlist => absurd (hasked.list.mp hlist) (by decide)

end Turnstile.Invocation
