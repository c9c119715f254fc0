import Turnstile.CommandLine.Invocation

/-! # How a list of arguments falls apart

A list of arguments is a row of **items**, each of them an argument with the value that goes with
it, and an **ending**: nothing, two dashes and whatever is behind them, or an option without a value.

* **`Stands`** says what an argument is when it is no value of an option, told from its spelling;
  **`stands_of`** and **`of_stands`** say that every argument is one thing only.
* **`Item.arguments`** and **`Ending.arguments`** write items and endings out, **`line`** both.
* **`exists_line`** and **`line_inj`** say that every list of arguments falls apart in one way. -/

namespace Turnstile.Invocation

variable {argument : Text}

/-! ## What an argument can be -/

/-- The unit that options start with. -/
def dash : UInt16 := Text.unit '-'

/-- An argument that **looks like a negative number**: a dash and a decimal digit in front. -/
def IsNegative (argument : Text) : Prop :=
  ∃ digit rest, argument = dash :: digit :: rest ∧ Text.isDigit digit = true

/-- **A positional argument** does not start with a dash, or looks like a negative number. -/
def IsPositional (argument : Text) : Prop := argument.head? ≠ some dash ∨ IsNegative argument

/-- **An unknown option** starts with a dash and is nothing else that does: no option, not the two
dashes, and nothing like a negative number. -/
structure IsUnknown (argument : Text) : Prop where
  dash : argument.head? = some dash
  notNegative : ¬ IsNegative argument
  notTerminator : argument ≠ "--"
  notFlag : ∀ flag, (argument, flag) ∉ flagSpellings
  notValued : ∀ option, (argument, option) ∉ valuedSpellings

theorem isNegative_iff : IsNegative argument ↔ looksNegative argument = true := by
  rw [IsNegative]
  match argument with
  | [] => simp [looksNegative]
  | [_] => simp [looksNegative]
  | u :: v :: rest =>
    simp only [looksNegative, Bool.and_eq_true, beq_iff_eq, List.cons.injEq, dash]
    constructor
    · rintro ⟨digit, rest, ⟨rfl, rfl, rfl⟩, hdigit⟩
      exact ⟨rfl, hdigit⟩
    · rintro ⟨rfl, hdigit⟩
      exact ⟨v, rest, ⟨rfl, rfl, rfl⟩, hdigit⟩

instance (argument : Text) : Decidable (IsNegative argument) :=
  decidable_of_iff _ isNegative_iff.symm

instance (argument : Text) : Decidable (IsPositional argument) :=
  inferInstanceAs (Decidable (_ ∨ _))

theorem startsWith_dash_iff : argument.startsWith "-" = true ↔ argument.head? = some dash := by
  have hdash : Text.ofString "-" = [dash] := by decide
  rw [Text.startsWith, hdash]
  cases argument with
  | nil => simp [List.isPrefixOf]
  | cons u rest =>
    simp only [List.isPrefixOf, Bool.and_true, beq_iff_eq, List.head?_cons, Option.some.injEq]
    exact eq_comm

/-- **What an argument is**, told from how it is spelled. -/
inductive Stands : Text → Token → Prop where
  | flag {spelling : Text} {flag : Flag} (spelled : (spelling, flag) ∈ flagSpellings) :
    Stands spelling (.flag flag)
  | valued {spelling : Text} {option : Valued} (spelled : (spelling, option) ∈ valuedSpellings) :
    Stands spelling (.valued option)
  | terminator : Stands "--" .terminator
  | positional {argument : Text} (positional : IsPositional argument) :
    Stands argument .positional
  | unknown {argument : Text} (unknown : IsUnknown argument) : Stands argument .unknown

/-- An argument that is found in a table is spelled as it says there. -/
theorem mem_of_lookup {β : Type} {spellings : List (Text × β)} {b : β}
    (h : spellings.lookup argument = some b) : (argument, b) ∈ spellings := by
  obtain ⟨before, after, hsplit, -⟩ := List.lookup_eq_some_iff.mp h
  rw [hsplit]
  exact List.mem_append_right _ List.mem_cons_self

/-- An argument that is spelled otherwise is not found. -/
theorem lookup_eq_none_iff {β : Type} {spellings : List (Text × β)} :
    spellings.lookup argument = none ↔ ∀ b, (argument, b) ∉ spellings := by
  rw [List.lookup_eq_none_iff]
  constructor
  · intro h b hb
    simpa using h _ hb
  · intro h p hp
    rw [bne_iff_ne]
    rintro rfl
    exact h p.2 hp

/-- The test for unknown options, for an argument that is spelled like no option. -/
theorem looksUnknown_iff : (argument.startsWith "-" && !looksNegative argument) = true
    ↔ argument.head? = some dash ∧ ¬ IsNegative argument := by
  rw [Bool.and_eq_true, startsWith_dash_iff, Bool.not_eq_true', ← Bool.not_eq_true,
    ← isNegative_iff]

/-- Every argument is something. -/
theorem stands_of (argument : Text) : Stands argument (Token.of argument) := by
  unfold Token.of
  split
  · next flag hlookup => exact .flag (mem_of_lookup hlookup)
  · next hflag =>
    split
    · next option hlookup => exact .valued (mem_of_lookup hlookup)
    · next hvalued =>
      split
      · next hterminator =>
        rw [beq_iff_eq.mp hterminator]
        exact .terminator
      · next hterminator =>
        split
        · next hunknown =>
          obtain ⟨hdash, hnegative⟩ := looksUnknown_iff.mp hunknown
          exact .unknown ⟨hdash, hnegative, fun heq => hterminator (beq_iff_eq.mpr heq),
            lookup_eq_none_iff.mp hflag, lookup_eq_none_iff.mp hvalued⟩
        · next hknown =>
          refine .positional ?_
          rw [looksUnknown_iff] at hknown
          by_cases hdash : argument.head? = some dash
          · exact Or.inr (Decidable.of_not_not fun hnegative => hknown ⟨hdash, hnegative⟩)
          · exact Or.inl hdash

/-- **Every argument is one thing only.** -/
theorem of_stands {token : Token} (h : Stands argument token) : Token.of argument = token := by
  cases h with
  | flag spelled =>
    have hall : ∀ p ∈ flagSpellings, Token.of p.1 = .flag p.2 := by decide
    exact hall _ spelled
  | valued spelled =>
    have hall : ∀ p ∈ valuedSpellings, Token.of p.1 = .valued p.2 := by decide
    exact hall _ spelled
  | terminator => decide
  | positional positional =>
    -- No spelling of an option is positional, nor are the two dashes.
    have hflag : ∀ p ∈ flagSpellings, ¬ IsPositional p.1 := by decide
    have hvalued : ∀ p ∈ valuedSpellings, ¬ IsPositional p.1 := by decide
    have hterminator : ¬ IsPositional "--" := by decide
    have hne : ¬ (argument == ("--" : Text)) = true := by
      rw [beq_iff_eq]
      rintro rfl
      exact hterminator positional
    have hknown : ¬ (argument.startsWith "-" && !looksNegative argument) = true := by
      rw [looksUnknown_iff]
      exact fun h => positional.elim (fun hhead => hhead h.1) h.2
    rw [Token.of, lookup_eq_none_iff.mpr fun f hf => hflag _ hf positional,
      lookup_eq_none_iff.mpr fun o ho => hvalued _ ho positional]
    simp only [if_neg hne, if_neg hknown]
  | unknown unknown =>
    have hne : ¬ (argument == ("--" : Text)) = true := by
      rw [beq_iff_eq]
      exact unknown.notTerminator
    rw [Token.of, lookup_eq_none_iff.mpr unknown.notFlag, lookup_eq_none_iff.mpr unknown.notValued]
    simp only [if_neg hne, if_pos (looksUnknown_iff.mpr ⟨unknown.dash, unknown.notNegative⟩)]

/-! ## Items and endings -/

/-- **An item**: an argument that is no value of an option, with the value that goes with it. -/
inductive Item where
  | flag (spelling : Text) (flag : Flag) (spelled : (spelling, flag) ∈ flagSpellings)
  | valued (spelling : Text) (option : Valued) (value : Text)
      (spelled : (spelling, option) ∈ valuedSpellings)
  | positional (argument : Text) (positional : IsPositional argument)
  | unknown (argument : Text) (unknown : IsUnknown argument)

/-- **How a list of arguments ends**, after its items. -/
inductive Ending where
  /-- With the last item. -/
  | done
  /-- With the two dashes and what is behind them. -/
  | terminated (rest : List Text)
  /-- With an option that has no argument behind it. -/
  | valueless (spelling : Text) (option : Valued) (spelled : (spelling, option) ∈ valuedSpellings)

namespace Item

/-- The arguments of an item. -/
def arguments : Item → List Text
  | .flag spelling _ _ => [spelling]
  | .valued spelling _ value _ => [spelling, value]
  | .positional argument _ => [argument]
  | .unknown argument _ => [argument]

/-- The flag that an item is. -/
def flag? : Item → Option Flag
  | .flag _ f _ => some f
  | _ => none

/-- The value that an item gives to an option. -/
def value? (option : Valued) : Item → Option Text
  | .valued _ o value _ => if o = option then some value else none
  | _ => none

/-- The positional argument that an item is. -/
def positional? : Item → Option Text
  | .positional argument _ => some argument
  | _ => none

end Item

/-- The arguments of an ending. -/
def Ending.arguments : Ending → List Text
  | .done => []
  | .terminated rest => "--" :: rest
  | .valueless spelling _ _ => [spelling]

/-- The positional arguments of an ending. -/
def Ending.positional : Ending → List Text
  | .terminated rest => rest
  | _ => []

/-- **Items and an ending written out.** -/
def line (items : List Item) (ending : Ending) : List Text :=
  items.flatMap Item.arguments ++ ending.arguments

theorem line_cons (item : Item) (items : List Item) (ending : Ending) :
    line (item :: items) ending = item.arguments ++ line items ending := by
  rw [line, List.flatMap_cons, List.append_assoc, line]

theorem line_append (first items : List Item) (ending : Ending) :
    line (first ++ items) ending = first.flatMap Item.arguments ++ line items ending := by
  rw [line, List.flatMap_append, List.append_assoc, line]

/-- **Every list of arguments falls apart** into items and an ending. -/
theorem exists_line : ∀ arguments : List Text, ∃ items ending, arguments = line items ending
  | [] => ⟨[], .done, rfl⟩
  | argument :: rest => by
    have hstands := stands_of argument
    generalize Token.of argument = token at hstands
    cases hstands with
    | flag spelled =>
      obtain ⟨items, ending, rfl⟩ := exists_line rest
      exact ⟨.flag argument _ spelled :: items, ending, rfl⟩
    | valued spelled =>
      -- The next argument is the value, whatever it looks like.
      match rest with
      | [] => exact ⟨[], .valueless argument _ spelled, rfl⟩
      | value :: rest =>
        obtain ⟨items, ending, rfl⟩ := exists_line rest
        exact ⟨.valued argument _ value spelled :: items, ending, rfl⟩
    | terminator => exact ⟨[], .terminated rest, rfl⟩
    | positional positional =>
      obtain ⟨items, ending, rfl⟩ := exists_line rest
      exact ⟨.positional argument positional :: items, ending, rfl⟩
    | unknown unknown =>
      obtain ⟨items, ending, rfl⟩ := exists_line rest
      exact ⟨.unknown argument unknown :: items, ending, rfl⟩

/-! ## In one way -/

namespace Item

/-- The argument that an item starts with. -/
def spelling : Item → Text
  | .flag spelling _ _ => spelling
  | .valued spelling _ _ _ => spelling
  | .positional argument _ => argument
  | .unknown argument _ => argument

/-- What that argument is. -/
def token : Item → Token
  | .flag _ f _ => .flag f
  | .valued _ o _ _ => .valued o
  | .positional .. => .positional
  | .unknown .. => .unknown

theorem of_spelling (item : Item) : Token.of item.spelling = item.token := by
  cases item with
  | flag _ _ spelled => exact of_stands (.flag spelled)
  | valued _ _ _ spelled => exact of_stands (.valued spelled)
  | positional _ positional => exact of_stands (.positional positional)
  | unknown _ unknown => exact of_stands (.unknown unknown)

theorem head?_arguments (item : Item) (rest : List Text) :
    (item.arguments ++ rest).head? = some item.spelling := by
  cases item <;> rfl

/-- The item that a list of arguments starts with is settled, and so is what is behind it. -/
theorem eq_of_arguments {item item' : Item} {rest rest' : List Text}
    (h : item.arguments ++ rest = item'.arguments ++ rest') : item = item' ∧ rest = rest' := by
  have hspelling : item.spelling = item'.spelling := by
    have hhead := congrArg List.head? h
    rw [head?_arguments, head?_arguments] at hhead
    exact Option.some.inj hhead
  have htoken : item.token = item'.token := by rw [← of_spelling, hspelling, of_spelling]
  -- Items of two kinds are told apart by what their first arguments are.
  cases item <;> cases item' <;>
    simp only [token, Token.flag.injEq, Token.valued.injEq, reduceCtorEq] at htoken <;>
    simp_all [arguments, spelling]

/-- No item starts an ending. -/
theorem arguments_ne_ending (item : Item) (rest : List Text) (ending : Ending) :
    item.arguments ++ rest ≠ ending.arguments := by
  intro h
  have hhead := congrArg List.head? h
  rw [head?_arguments] at hhead
  have htoken := item.of_spelling
  cases ending with
  | done => simp [Ending.arguments] at hhead
  | terminated behind =>
    obtain heq : item.spelling = "--" := Option.some.inj hhead
    rw [heq, of_stands .terminator] at htoken
    cases item <;> simp [token] at htoken
  | valueless spelling option spelled =>
    obtain heq : item.spelling = spelling := Option.some.inj hhead
    rw [heq, of_stands (.valued spelled)] at htoken
    -- Only an option with a value could be meant, and that has two arguments.
    cases item <;> simp [token] at htoken
    simp [arguments, Ending.arguments] at h

end Item

theorem Ending.eq_of_arguments {ending ending' : Ending}
    (h : ending.arguments = ending'.arguments) : ending = ending' := by
  have hone : ∀ {spelling : Text} {option : Valued}, (spelling, option) ∈ valuedSpellings →
      ∀ behind : List Text, [spelling] ≠ ("--" : Text) :: behind := by
    intro spelling option spelled behind heq
    have hvalued := of_stands (.valued spelled)
    rw [List.head_eq_of_cons_eq heq, of_stands .terminator] at hvalued
    simp at hvalued
  match ending, ending' with
  | .done, .done => rfl
  | .terminated behind, .terminated behind' => rw [List.tail_eq_of_cons_eq h]
  | .valueless spelling option spelled, .valueless spelling' option' spelled' =>
    obtain rfl : spelling = spelling' := List.head_eq_of_cons_eq h
    have hoption := (of_stands (.valued spelled)).symm.trans (of_stands (.valued spelled'))
    obtain rfl : option = option' := Token.valued.inj hoption
    rfl
  | .done, .terminated _ => simp [arguments] at h
  | .done, .valueless .. => simp [arguments] at h
  | .terminated _, .done => simp [arguments] at h
  | .valueless .., .done => simp [arguments] at h
  | .terminated behind, .valueless _ _ spelled => exact absurd h.symm (hone spelled behind)
  | .valueless _ _ spelled, .terminated behind => exact absurd h (hone spelled behind)

/-- **There is one way only to take a list of arguments apart.** -/
theorem line_inj {items items' : List Item} {ending ending' : Ending}
    (h : line items ending = line items' ending') : items = items' ∧ ending = ending' := by
  induction items generalizing items' with
  | nil =>
    cases items' with
    | nil => exact ⟨rfl, Ending.eq_of_arguments h⟩
    | cons item' items' =>
      rw [line_cons] at h
      exact absurd h.symm (item'.arguments_ne_ending _ ending)
  | cons item items ih =>
    cases items' with
    | nil =>
      rw [line_cons] at h
      exact absurd h (item.arguments_ne_ending _ ending')
    | cons item' items' =>
      rw [line_cons, line_cons] at h
      obtain ⟨rfl, hrest⟩ := Item.eq_of_arguments h
      obtain ⟨rfl, rfl⟩ := ih hrest
      exact ⟨rfl, rfl⟩

end Turnstile.Invocation
