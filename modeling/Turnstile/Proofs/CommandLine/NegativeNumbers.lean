import Turnstile.Proofs.CommandLine.ReadValues
import Turnstile.Proofs.CommandLine.Refused
import Turnstile.Proofs.Number.MinusSign

/-! # Negative numbers on a line

Which texts with a minus sign are read as numbers and are positional arguments at once.

* **`followsMinus_of_read`** says how a text goes on behind its minus sign when it is read as a
  number, an integer or a list of numbers.
* **`isPositional_iff_of_read`** says that such a text is a positional argument unless a point or
  `Infinity` comes first.
* **`parse_negative_number`** says what a line makes of such an argument. -/

namespace Turnstile

open Numeral Text

/-! ## Values with a minus sign -/

/-- A text starts with its first part. -/
theorem Text.split_eq (separator : UInt16) (t : Text) :
    ∃ first parts, split separator t = first :: parts ∧ first <+: t := by
  induction t with
  | nil => exact ⟨[], [], rfl, List.prefix_rfl⟩
  | cons u t ih =>
    obtain ⟨first, parts, hsplit, hfirst⟩ := ih
    by_cases hu : u = separator
    · exact ⟨[], split separator t, by rw [split, if_pos hu], List.nil_prefix⟩
    · refine ⟨u :: first, parts, by rw [split, if_neg hu, hsplit], ?_⟩
      exact List.cons_prefix_cons.mpr ⟨rfl, hfirst⟩

variable {t raw : Text} {kind : ValueKind} {value : Value}

theorem followsMinus_of_readNumber {x : Number} (h : readNumber (unit '-' :: t) = .ok x) :
    FollowsMinus t := by
  refine followsMinus_of_number fun hnan => ?_
  obtain ⟨-, hnumber, hx⟩ := readNumber_eq_ok_iff.mp h
  rw [← hnumber, hnan] at hx
  exact absurd hx nofun

/-- A text that writes a number and is not blank is read as this number. -/
theorem read_number_eq {x : Number} (hblank : isBlankText raw = false) (hnumber : number raw = x)
    (hnan : x.isNaN = false) : ValueKind.number.read raw = .ok (.number x) :=
  read_number_eq_ok_iff.mpr ⟨x, readNumber_eq_ok_iff.mpr ⟨hblank, hnumber, hnan⟩, rfl⟩

/-- A list of numbers goes on behind its minus sign as its first number does. -/
theorem followsMinus_of_readNumbers {xs : List Number}
    (h : readNumbers (unit '-' :: t) = .ok xs) : FollowsMinus t := by
  have hcomma : unit '-' ≠ unit ',' := by decide
  obtain ⟨first, parts, hsplit, hfirst⟩ := Text.split_eq (unit ',') t
  have hparts : split (unit ',') (unit '-' :: t) = (unit '-' :: first) :: parts := by
    rw [split, if_neg hcomma, hsplit]
  have hblank : isBlankText (unit '-' :: t) = false :=
    isBlankText_eq_false_iff.mpr ⟨unit '-', List.mem_cons_self, by decide⟩
  rw [readNumbers_eq_ok_iff hblank, hparts, List.forall₂_cons_left_iff] at h
  obtain ⟨x, rest, hread, -⟩ := h
  exact (followsMinus_of_readNumber hread).extend hfirst

/-- The kinds of values that are read as numbers. -/
def ValueKind.numeric : List ValueKind := [.number, .integer, .numberArray]

theorem startsWithDigit_of_readInteger {i : Int} (h : readInteger (unit '-' :: t) = .ok i) :
    t.StartsWithDigit :=
  startsWithDigit_of_integer? (readInteger_eq_ok_iff.mp h).2

/-- **A value with a minus sign goes on** with a digit, a point or `Infinity`. -/
theorem followsMinus_of_read (hkind : kind ∈ ValueKind.numeric)
    (h : kind.read (unit '-' :: t) = .ok value) : FollowsMinus t := by
  simp only [ValueKind.numeric, List.mem_cons, List.not_mem_nil, or_false] at hkind
  obtain rfl | rfl | rfl := hkind
  · obtain ⟨x, hx, -⟩ := read_number_eq_ok_iff.mp h
    exact followsMinus_of_readNumber hx
  · obtain ⟨i, hi, -⟩ := read_integer_eq_ok_iff.mp h
    exact .digit (startsWithDigit_of_readInteger hi)
  · obtain ⟨xs, hxs, -⟩ := read_numberArray_eq_ok_iff.mp h
    exact followsMinus_of_readNumbers hxs

namespace Invocation

variable {directory builtin : Text} {items : List Item} {ending : Ending}

/-! ## Positional arguments with a minus sign -/

/-- A unit that is no digit starts no negative number. -/
theorem not_isPositional_of_second {front : Text} {u : UInt16} (hdigit : isDigit u = false)
    (hfront : dash :: u :: front <+: raw) : ¬ IsPositional raw := by
  obtain ⟨more, rfl⟩ := hfront
  rintro (hhead | ⟨digit, rest, heq, hisDigit⟩)
  · exact hhead rfl
  · simp only [List.cons_append, List.cons.injEq, true_and] at heq
    rw [← heq.1, hdigit] at hisDigit
    exact Bool.false_ne_true hisDigit

theorem not_isPositional_of_point (h : ("-." : Text) <+: raw) : ¬ IsPositional raw :=
  not_isPositional_of_second (u := unit '.') (by decide) h

theorem not_isPositional_of_infinity (h : ("-Infinity" : Text) <+: raw) : ¬ IsPositional raw :=
  not_isPositional_of_second (u := unit 'I') (by decide) h

/-- **A value with a minus sign** is a positional argument, or a point or `Infinity` comes first. -/
theorem cases_of_read (hkind : kind ∈ ValueKind.numeric) (hhead : raw.head? = some dash)
    (hread : kind.read raw = .ok value) :
    IsPositional raw ∨ ("-." : Text) <+: raw ∨ ("-Infinity" : Text) <+: raw := by
  obtain ⟨t, rfl⟩ := List.head?_eq_some_iff.mp hhead
  cases followsMinus_of_read hkind hread with
  | digit starts =>
    obtain ⟨digit, rest, rfl, hdigit⟩ := starts
    exact .inl (.inr ⟨digit, rest, rfl, hdigit⟩)
  | point starts => exact .inr (.inl (List.cons_prefix_cons.mpr ⟨rfl, starts⟩))
  | infinity starts => exact .inr (.inr (List.cons_prefix_cons.mpr ⟨rfl, starts⟩))

/-- **A negative number is a positional argument** unless a point or `Infinity` comes first. -/
theorem isPositional_iff_of_read (hkind : kind ∈ ValueKind.numeric) (hhead : raw.head? = some dash)
    (hread : kind.read raw = .ok value) :
    IsPositional raw ↔ ¬ ("-." : Text) <+: raw ∧ ¬ ("-Infinity" : Text) <+: raw := by
  constructor
  · intro hpositional
    exact ⟨fun h => not_isPositional_of_point h hpositional,
      fun h => not_isPositional_of_infinity h hpositional⟩
  · rintro ⟨hpoint, hinfinity⟩
    obtain hpositional | h | h := cases_of_read hkind hhead hread
    · exact hpositional
    · exact absurd h hpoint
    · exact absurd h hinfinity

/-- A negative integer always is. -/
theorem isPositional_of_read_integer (hhead : raw.head? = some dash)
    (hread : ValueKind.integer.read raw = .ok value) : IsPositional raw := by
  obtain ⟨t, rfl⟩ := List.head?_eq_some_iff.mp hhead
  obtain ⟨i, hi, -⟩ := read_integer_eq_ok_iff.mp hread
  obtain ⟨digit, rest, rfl, hdigit⟩ := startsWithDigit_of_readInteger hi
  exact .inr ⟨digit, rest, rfl, hdigit⟩

/-- A negative number that is no positional argument is an unknown option. -/
theorem isUnknown_of_read (hkind : kind ∈ ValueKind.numeric) (hhead : raw.head? = some dash)
    (hread : kind.read raw = .ok value) (hpositional : ¬ IsPositional raw) : IsUnknown raw := by
  have hcases : ("-." : Text) <+: raw ∨ ("-Infinity" : Text) <+: raw :=
    (cases_of_read hkind hhead hread).resolve_left hpositional
  -- No option is spelled like that.
  have hflags : ∀ p ∈ flagSpellings,
      ¬ (("-." : Text) <+: p.1 ∨ ("-Infinity" : Text) <+: p.1) := by decide
  have hvalued : ∀ p ∈ valuedSpellings,
      ¬ (("-." : Text) <+: p.1 ∨ ("-Infinity" : Text) <+: p.1) := by decide
  have hterminator : ¬ (("-." : Text) <+: "--" ∨ ("-Infinity" : Text) <+: "--") := by decide
  exact ⟨hhead, fun hnegative => hpositional (.inr hnegative),
    fun heq => hterminator (heq ▸ hcases), fun _ hmem => hflags _ hmem hcases,
    fun _ hmem => hvalued _ hmem hcases⟩

/-! ## Lines with negative numbers -/

/-- **An argument is taken** for the operand at a place: it is not refused as an unknown option, and
when the line is accepted it stands at this place. -/
structure Takes (directory builtin : Text) (arguments : List Text) (argument : Text)
    (place : Nat) : Prop where
  known : parse directory builtin arguments ≠ .error (.unknownOption argument)
  operand : ∀ i, parse directory builtin arguments = .ok i → i.operandList[place]? = some argument

/-- An argument among the operands that is no unknown option is taken. -/
theorem takes_of_operands {argument : Text} {place : Nat}
    (hknown : parse directory builtin (line items ending) ≠ .error (.unknownOption argument))
    (hplace : (operands items ending)[place]? = some argument) :
    Takes directory builtin (line items ending) argument place where
  known := hknown
  operand i hparse := by
    have hne : operands items ending ≠ [] := by
      intro hnil
      simp [hnil] at hplace
    rw [(askedBy_of_parse hparse).together hne, hplace]

/-- **A positional argument is taken**, whatever stands in front of it and behind it. -/
theorem takes_positional (directory builtin : Text) (hpositional : IsPositional raw)
    (items : List Item) (rest : List Text) :
    Takes directory builtin (items.flatMap Item.arguments ++ raw :: rest) raw
      (givenPositional items).length := by
  obtain ⟨behind, ending, rfl⟩ := exists_line rest
  have hline : items.flatMap Item.arguments ++ raw :: line behind ending
      = line (items ++ .positional raw hpositional :: behind) ending := by
    rw [line_append, line_cons, Item.arguments, List.singleton_append]
  rw [hline]
  refine takes_of_operands (fun hparse => ?_) ?_
  · -- An unknown option starts with a dash and is no negative number.
    have hunknown := isUnknown_of_parse hparse
    exact hpositional.elim (fun hhead => hhead hunknown.dash) hunknown.notNegative
  · simp [operands, givenPositional, Item.positional?]

/-- **An argument behind two dashes is taken**, when nothing is wrong in front of them. -/
theorem takes_terminated (directory builtin : Text) (raw : Text)
    (hsound : ∀ item ∈ items, item.IsSound) (before after : List Text) :
    Takes directory builtin
      (items.flatMap Item.arguments ++ ("--" : Text) :: (before ++ raw :: after)) raw
      ((givenPositional items).length + before.length) := by
  have hline : items.flatMap Item.arguments ++ ("--" : Text) :: (before ++ raw :: after)
      = line items (.terminated (before ++ raw :: after)) := rfl
  rw [hline]
  refine takes_of_operands (fun hparse => ?_) ?_
  · cases parse_line_eq_error_iff.mp hparse with
    | item split _ offends =>
      rw [split] at hsound
      exact hsound _ (List.mem_append_right _ List.mem_cons_self) _ offends
    | ending _ offends => exact absurd offends nofun
  · simp [operands, Ending.positional]

/-- **What a line makes of a negative number.** It is taken like any positional argument, unless a
point or `Infinity` comes behind its minus sign: then it is refused as an unknown option, and taken
behind two dashes only. A negative integer is always taken. -/
theorem parse_negative_number (hkind : kind ∈ ValueKind.numeric) (hhead : raw.head? = some dash)
    (hread : kind.read raw = .ok value) (directory builtin : Text) :
    (IsPositional raw ↔ ¬ ("-." : Text) <+: raw ∧ ¬ ("-Infinity" : Text) <+: raw)
    ∧ (kind = .integer → IsPositional raw)
    ∧ (IsPositional raw → ∀ (items : List Item) (rest : List Text),
        Takes directory builtin (items.flatMap Item.arguments ++ raw :: rest) raw
          (givenPositional items).length)
    ∧ (¬ IsPositional raw → ∀ (items : List Item) (rest : List Text),
        (∀ item ∈ items, item.IsSound) →
        parse directory builtin (items.flatMap Item.arguments ++ raw :: rest)
          = .error (.unknownOption raw))
    ∧ ∀ (items : List Item) (before after : List Text), (∀ item ∈ items, item.IsSound) →
        Takes directory builtin
          (items.flatMap Item.arguments ++ ("--" : Text) :: (before ++ raw :: after)) raw
          ((givenPositional items).length + before.length) := by
  refine ⟨isPositional_iff_of_read hkind hhead hread, ?_, takes_positional directory builtin,
    ?_, ?_⟩
  · rintro rfl
    exact isPositional_of_read_integer hhead hread
  · intro hpositional items rest hsound
    have hunknown := isUnknown_of_read hkind hhead hread hpositional
    have hoffends : (Item.unknown raw hunknown).Offends (.unknownOption raw) := .unknown
    refine parse_eq_error_of_scan ?_
    rw [scan_items {} hsound]
    exact scan_offence _ hoffends rest
  · intro items before after hsound
    exact takes_terminated directory builtin raw hsound before after

/-- A number with an exponent is taken for an argument of the function. -/
theorem parse_negative_number_exponent :
    ValueKind.number.read "-3e2" = .ok (.number (.ofDecimal true 3 2))
      ∧ Takes "/home" "/lib" ["fib", "-n", "5", "fibonacci", "-3e2", "--list"] "-3e2" 2 := by
  have hread : ValueKind.number.read "-3e2" = .ok (.number (.ofDecimal true 3 2)) :=
    read_number_eq (by decide) (by decide +kernel) (by decide +kernel)
  obtain ⟨-, -, htakes, -⟩ :=
    parse_negative_number (by decide) (by decide) hread "/home" "/lib"
  exact ⟨hread, htakes (by decide) [.positional "fib" (by decide),
    .valued "-n" .repetitions "5" (by decide), .positional "fibonacci" (by decide)] ["--list"]⟩

/-- **A number that starts with a point is refused**, although it is read as a number. -/
theorem parse_point_refused :
    ValueKind.number.read "-.5" = .ok (.number (.ofDecimal true 5 (-1)))
      ∧ ("-.5" : Text).head? = some dash
      ∧ parse "/home" "/lib" ["fib", "fibonacci", "-.5"] = .error (.unknownOption "-.5") := by
  refine ⟨?_, by decide, parse_eq_error_of_scan rfl⟩
  exact read_number_eq (by decide) (by decide +kernel) (by decide +kernel)

end Invocation

end Turnstile
