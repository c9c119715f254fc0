import Turnstile.Proofs.CommandLine.Item

/-! # Items read one by one

What an item or an ending does to what was read so far, and which of them are refused.

* **`IsCount`** says which texts are numbers of repetitions.
* **`Item.Offends`** and **`Ending.Offends`** say what is wrong with an item or an ending.
* **`scan_items`**, **`scan_offence`** and **`scan_ending`** read items and endings one by one.
* **`Reading.withAll`** is what items say, in terms of **`givenFlags`**, **`givenValues`** and
  **`givenPositional`**; **`foldl_with`** says that this is what is read. -/

namespace Turnstile

/-! ## Numbers of repetitions -/

namespace Number

theorem place?_one : (1 : Number).place? = some (one : Int) := by decide +kernel

/-- To be an integer and not less than one is to be a positive integer. -/
theorem isInteger_and_one_le_iff (x : Number) :
    (x.isInteger && le 1 x) = true ↔ ∃ n, x.toInt? = some n ∧ 1 ≤ n := by
  cases x with
  | nan => simp [isInteger, toInt?]
  | infinity => simp [isInteger, toInt?]
  | finite negative quanta h =>
    by_cases hmod : quanta % one = 0
    · have hone : 0 < one := by decide +kernel
      have hle : le 1 (.finite negative quanta h)
          = decide ((one : Int) ≤ signed negative quanta) := by
        rw [le, place?_one]
        rfl
      have hdiv : 1 ≤ quanta / one ↔ one ≤ quanta := Nat.one_le_div_iff hone
      have hquotient : (one : Int) ≤ signed negative quanta
          ↔ 1 ≤ signed negative (quanta / one) := by
        cases negative with
        | true =>
          simp only [signed, if_true]
          have hquotient : (0 : Int) ≤ (quanta / one : Nat) := Int.natCast_nonneg _
          omega
        | false =>
          simp only [signed, Bool.false_eq_true, if_false]
          omega
      have hint : toInt? (.finite negative quanta h) = some (signed negative (quanta / one)) := by
        rw [toInt?, if_pos hmod]
      rw [isInteger, hint, hle, Option.isSome_some, Bool.true_and, decide_eq_true_iff, hquotient]
      constructor
      · intro hone
        exact ⟨_, rfl, hone⟩
      · rintro ⟨n, hn, hone⟩
        rwa [Option.some.inj hn]
    · have hint : toInt? (.finite negative quanta h) = none := by rw [toInt?, if_neg hmod]
      simp [isInteger, hint]

end Number

namespace Invocation

/-- **A number of repetitions** is a text that writes an integer of at least one. -/
def IsCount (value : Text) : Prop := ∃ n, (Numeral.number value).toInt? = some n ∧ 1 ≤ n

theorem isCount_iff {value : Text} : IsCount value ↔
    ((Numeral.number value).isInteger && Number.le 1 (Numeral.number value)) = true :=
  (Number.isInteger_and_one_le_iff _).symm

instance (value : Text) : Decidable (IsCount value) := decidable_of_iff _ isCount_iff.symm

/-! ## Offences -/

/-- **What is wrong with an item**: a number of repetitions that is none, or an unknown option. -/
inductive Item.Offends : Item → InvocationFault → Prop where
  | repetitions {spelling value : Text} {spelled : (spelling, Valued.repetitions) ∈ valuedSpellings}
      (notCount : ¬ IsCount value) :
    Item.Offends (.valued spelling .repetitions value spelled) (.invalidRepetitions value)
  | unknown {argument : Text} {unknown : IsUnknown argument} :
    Item.Offends (.unknown argument unknown) (.unknownOption argument)

/-- **What is wrong with an ending**: an option without a value. -/
inductive Ending.Offends : Ending → InvocationFault → Prop where
  | valueless {spelling : Text} {option : Valued}
      {spelled : (spelling, option) ∈ valuedSpellings} :
    Ending.Offends (.valueless spelling option spelled) (.missingValue spelling)

/-- An item with which nothing is wrong. -/
def Item.IsSound (item : Item) : Prop := ∀ fault, ¬ item.Offends fault

/-- An ending with which nothing is wrong. -/
def Ending.IsSound (ending : Ending) : Prop := ∀ fault, ¬ ending.Offends fault

/-- The number of repetitions of a sound item is one. -/
theorem Item.IsSound.isCount {spelling value : Text}
    {spelled : (spelling, Valued.repetitions) ∈ valuedSpellings}
    (h : (Item.valued spelling .repetitions value spelled).IsSound) : IsCount value :=
  Decidable.of_not_not fun hnot => h _ (.repetitions hnot)

instance : (item : Item) → Decidable item.IsSound
  | .flag .. => isTrue nofun
  | .valued _ .libraryPath _ _ => isTrue nofun
  | .valued _ .settingsPath _ _ => isTrue nofun
  | .valued _ .repetitions _ _ => decidable_of_iff (IsCount _)
      ⟨fun hcount _ hoffends => match hoffends with | .repetitions notCount => notCount hcount,
        Item.IsSound.isCount⟩
  | .positional .. => isTrue nofun
  | .unknown .. => isFalse fun hsound => hsound _ .unknown

instance : (ending : Ending) → Decidable ending.IsSound
  | .done => isTrue nofun
  | .terminated _ => isTrue nofun
  | .valueless .. => isFalse fun hsound => hsound _ .valueless

/-! ## Reading -/

/-- **What was read so far, and an item**: a value takes the place of the one before. -/
def Reading.with (r : Reading) (item : Item) : Reading where
  libraryPath := (item.value? .libraryPath).or r.libraryPath
  settingsPath := (item.value? .settingsPath).or r.settingsPath
  repetitions := ((item.value? .repetitions).map Numeral.number).getD r.repetitions
  flags := item.flag?.toList ++ r.flags
  positional := r.positional ++ item.positional?.toList

/-- What was read so far, and the value of an option. -/
theorem setValue_eq (r : Reading) {spelling value : Text} {option : Valued}
    (spelled : (spelling, option) ∈ valuedSpellings)
    (hsound : (Item.valued spelling option value spelled).IsSound) :
    r.setValue option value = .ok (r.with (.valued spelling option value spelled)) := by
  cases option with
  | libraryPath => simp [Reading.setValue, Reading.with, Item.value?, Item.flag?, Item.positional?]
  | settingsPath => simp [Reading.setValue, Reading.with, Item.value?, Item.flag?, Item.positional?]
  | repetitions =>
    simp [Reading.setValue, Reading.with, Item.value?, Item.flag?, Item.positional?,
      isCount_iff.mp hsound.isCount]

/-- **A sound item is taken up.** -/
theorem scan_item (r : Reading) {item : Item} (hsound : item.IsSound) (rest : List Text) :
    scan r (item.arguments ++ rest) = scan (r.with item) rest := by
  cases item with
  | flag spelling flag spelled =>
    rw [Item.arguments, List.singleton_append, scan, of_stands (.flag spelled)]
    simp [Reading.with, Reading.setFlag, Item.value?, Item.flag?, Item.positional?]
  | valued spelling option value spelled =>
    show scan r (spelling :: value :: rest) = _
    rw [scan, of_stands (.valued spelled)]
    simp only [setValue_eq r spelled hsound]
  | positional argument positional =>
    rw [Item.arguments, List.singleton_append, scan, of_stands (.positional positional)]
    rfl
  | unknown argument unknown => exact absurd .unknown (hsound _)

/-- Sound items are taken up one after the other. -/
theorem scan_items (r : Reading) {items : List Item} (hsound : ∀ item ∈ items, item.IsSound)
    (rest : List Text) :
    scan r (items.flatMap Item.arguments ++ rest) = scan (items.foldl Reading.with r) rest := by
  induction items generalizing r with
  | nil => rfl
  | cons item items ih =>
    rw [List.flatMap_cons, List.append_assoc, scan_item r (hsound item List.mem_cons_self),
      ih _ fun i hi => hsound i (List.mem_cons_of_mem item hi), List.foldl_cons]

/-- **An item with which something is wrong ends the reading.** -/
theorem scan_offence (r : Reading) {item : Item} {fault : InvocationFault}
    (hoffends : item.Offends fault) (rest : List Text) :
    scan r (item.arguments ++ rest) = .error fault := by
  cases hoffends with
  | @repetitions spelling value spelled notCount =>
    show scan r (spelling :: value :: rest) = _
    rw [scan, of_stands (.valued spelled)]
    simp only [Reading.setValue, if_neg (mt isCount_iff.mpr notCount)]
  | @unknown argument unknown =>
    rw [Item.arguments, List.singleton_append, scan, of_stands (.unknown unknown)]

/-- What a sound ending adds. -/
theorem scan_ending (r : Reading) {ending : Ending} (hsound : ending.IsSound) :
    scan r ending.arguments = .ok (r.addPositional ending.positional) := by
  cases ending with
  | done => simp [Ending.arguments, Ending.positional, scan, Reading.addPositional]
  | terminated rest =>
    rw [Ending.arguments, scan, of_stands .terminator]
    rfl
  | valueless spelling option spelled => exact absurd .valueless (hsound _)

/-- An option without a value ends the reading too. -/
theorem scan_ending_offence (r : Reading) {ending : Ending} {fault : InvocationFault}
    (hoffends : ending.Offends fault) : scan r ending.arguments = .error fault := by
  cases hoffends with
  | valueless =>
    next spelling option spelled =>
    rw [Ending.arguments, scan, of_stands (.valued spelled)]

/-! ## What is read -/

/-- The flags among the items. -/
def givenFlags (items : List Item) : List Flag := items.filterMap Item.flag?

/-- The values that the items give to an option, in order. -/
def givenValues (option : Valued) (items : List Item) : List Text :=
  items.filterMap (Item.value? option)

/-- The positional arguments among the items, in order. -/
def givenPositional (items : List Item) : List Text := items.filterMap Item.positional?

/-- **The operands** of a line: the positional arguments among its items, and what is behind the two
dashes. -/
def operands (items : List Item) (ending : Ending) : List Text :=
  givenPositional items ++ ending.positional

theorem filterMap_cons_toList {α β : Type} (f : α → Option β) (x : α) (xs : List α) :
    (x :: xs).filterMap f = (f x).toList ++ xs.filterMap f := by
  cases h : f x <;> simp [h]

/-- **What was read so far, and items**: of the values for an option the last one counts. -/
def Reading.withAll (r : Reading) (items : List Item) : Reading where
  libraryPath := (givenValues .libraryPath items).getLast?.or r.libraryPath
  settingsPath := (givenValues .settingsPath items).getLast?.or r.settingsPath
  repetitions := ((givenValues .repetitions items).getLast?.map Numeral.number).getD r.repetitions
  flags := (givenFlags items).reverse ++ r.flags
  positional := r.positional ++ givenPositional items

/-- The last value for an option, with one item more in front. -/
theorem getLast?_givenValues_cons (option : Valued) (item : Item) (items : List Item) :
    (givenValues option (item :: items)).getLast?
      = (givenValues option items).getLast?.or (item.value? option) := by
  rw [givenValues, filterMap_cons_toList, List.getLast?_append, givenValues]
  cases item.value? option <;> rfl

/-- Items taken up one after the other are what they say. -/
theorem foldl_with (r : Reading) (items : List Item) :
    items.foldl Reading.with r = r.withAll items := by
  -- What was read so far stays open: a value of a later item takes its place.
  induction items generalizing r with
  | nil => rw [List.foldl_nil, Reading.withAll]; simp [givenValues, givenFlags, givenPositional]
  | cons item items ih =>
    have hflags : givenFlags (item :: items) = item.flag?.toList ++ givenFlags items :=
      filterMap_cons_toList ..
    have hpositional : givenPositional (item :: items)
        = item.positional?.toList ++ givenPositional items := filterMap_cons_toList ..
    have hone : item.flag?.toList.reverse = item.flag?.toList := by
      cases item.flag? <;> rfl
    have hcount : ∀ last first : Option Text,
        ((last.or first).map Numeral.number).getD r.repetitions
          = (last.map Numeral.number).getD ((first.map Numeral.number).getD r.repetitions) := by
      intro last first
      cases last <;> rfl
    rw [List.foldl_cons, ih]
    simp only [Reading.withAll, Reading.with, getLast?_givenValues_cons, hflags, hpositional, hone,
      hcount, Option.or_assoc, List.append_assoc, List.reverse_append]

end Invocation

end Turnstile
