import Turnstile.Proofs.Source.WrittenUndefined
import Turnstile.Signature

/-! # Types as elements of an array

What is left of the text of an array when the notation for arrays is taken away again.

* **`SourceType.HasTypeNames`** asks for names that go for types as they are written in a source.
* **`SourceType.elementType_toText`**: what is left is the text of the element, in the parentheses that
  stood around it.
* **`SourceType.toText_arranged_eq_iff`**: whether a type is written by a given word does not depend on
  the order in which unions are written. -/

namespace Turnstile.Source

open Text (bar)

/-! ## Names -/

/-- A unit of a name that goes for a type; the name may stand in a namespace. -/
def isTypeNameUnit (u : UInt16) : Bool := isNamePart u || u = Text.unit '.'

/-- Whether a text can go for a type. -/
def isTypeName (name : Text) : Bool := name.all isTypeNameUnit

/-- A text with a unit that no name has is no name. -/
theorem isTypeName_eq_false {u : UInt16} {t : Text} (hmem : u ∈ t) (hu : isTypeNameUnit u = false) :
    isTypeName t = false := by
  rw [isTypeName, List.all_eq_false]
  exact ⟨u, hmem, by simp [hu]⟩

theorem ne_name {t word : Text} (ht : isTypeName t = false) (hword : isTypeName word = true) :
    t ≠ word := by
  rintro rfl
  exact Bool.noConfusion (hword.symm.trans ht)

/-- Behind a name the text goes on with the first unit that no name has. -/
theorem dropWhile_name_append {name rest : Text} {u : UInt16} (hname : isTypeName name = true)
    (hu : isTypeNameUnit u = false) :
    (name ++ u :: rest).dropWhile isTypeNameUnit = u :: rest := by
  rw [List.dropWhile_append_of_pos (List.all_eq_true.mp hname),
    List.dropWhile_cons_of_neg (Bool.eq_false_iff.mp hu)]

namespace SourceType

/-- The name and the type arguments of a type that goes by a name. -/
def reference? : SourceType → Option (Text × List SourceType)
  | .named _ name arguments => some (name, arguments)
  | .alias _ name arguments _ => some (name, arguments)
  | .unresolved name arguments => some (name, arguments)
  | .parameter _ name _ => some (name, [])
  | .enumeration _ name _ => some (name, [])
  | _ => none

/-- **Types whose names can be written**, the types in their text included. -/
inductive HasTypeNames : SourceType → Prop
  | intro {type : SourceType}
      (name : ∀ name arguments, type.reference? = some (name, arguments) → isTypeName name = true)
      (parts : ∀ part ∈ type.parts, HasTypeNames part) : HasTypeNames type

variable {type element : SourceType} {order : List Text} {name word : Text}
  {arguments : List SourceType}

theorem reference_toText (h : type.reference? = some (name, arguments)) :
    type.toText = name ++ bracketed (arguments.map toText) := by
  cases type with
  | named =>
    obtain ⟨rfl, rfl⟩ := Prod.mk.inj (Option.some.inj h)
    rw [named_toText, textsOf_zero]
  | «alias» | unresolved | parameter | enumeration =>
    obtain ⟨rfl, rfl⟩ := Prod.mk.inj (Option.some.inj h)
    rw [← textsOf_zero]
    rfl
  | _ => exact absurd h nofun

theorem parts_of_reference? (h : type.reference? = some (name, arguments)) :
    type.parts = arguments := by
  cases type with
  | named | «alias» | unresolved | parameter | enumeration => exact (Prod.mk.inj (Option.some.inj h)).2
  | _ => exact absurd h nofun

theorem hasTypeNames_arranged (h : type.HasTypeNames) : (type.arranged order).HasTypeNames := by
  induction h with
  | @intro type hname hparts ih =>
    refine .intro (fun name arguments href => ?_) fun part hpart => ?_
    · cases type with
      | named | «alias» | unresolved | parameter | enumeration =>
        exact hname name _ (congrArg some (Prod.ext (Prod.mk.inj (Option.some.inj href)).1 rfl))
      | _ => exact absurd href nofun
    · obtain h | ⟨p, hp, rfl⟩ := mem_parts_arranged hpart
      · exact hparts part h
      · exact ih p hp

/-! ## Words -/

/-- **Types with other types in their text**, so that the text is more than a name. -/
def isCompound : SourceType → Bool
  | .array .. => true
  | .callable _ => true
  | .record _ => true
  | .union .. => true
  | .named _ _ arguments => !arguments.isEmpty
  | .alias _ _ arguments _ => !arguments.isEmpty
  | _ => false

theorem isCompound_arranged : (type.arranged order).isCompound = type.isCompound := by
  cases type with
  | named home name arguments => cases arguments <;> rfl
  | «alias» home name arguments meaning => cases arguments <;> rfl
  | _ => rfl

/-- A type of no other types has no union that could be written in another order. -/
theorem arranged_of_not_isCompound (hbasic : type.hasBasicShape = true)
    (h : type.isCompound = false) : type.arranged order = type := by
  cases type with
  | array | callable | record | union => exact absurd h nofun
  | named home name arguments | «alias» home name arguments =>
    cases arguments with
    | nil => rfl
    | cons first rest => exact absurd h nofun
  | tuple | constructable | intersection | keysOf | indexed => exact absurd hbasic nofun
  | _ => rfl

theorem open_mem_function {c : CallType} (h : c.givesType = true) :
    Text.unit '(' ∈ (callable [c]).toText := by
  have hopen : Text.unit '(' ∈ ("(" : Text) := by decide
  rw [toText, textOf, callText_eq _ h]
  simp [hopen]

theorem brace_mem_overloads {calls : List CallType} (hseveral : ∀ c, calls ≠ [c]) :
    Text.unit '\x7b' ∈ (callable calls).toText := by
  have hbrace : Text.unit '\x7b' ∈ ("\x7b " : Text) := by decide
  rw [overloads_toText hseveral]
  simp [hbrace]

theorem brace_mem_record (members : List MemberType) :
    Text.unit '\x7b' ∈ (record members).toText := by
  cases members <;> exact List.mem_cons_self

theorem bar_mem_union {members shown : List SourceType}
    (h : (union members shown).hasBasicShape = true) : bar ∈ (union members shown).toText := by
  obtain ⟨hlength, -⟩ := Bool.and_eq_true_iff.mp h
  have hbar : bar ∈ (" | " : Text) := by decide
  have htext : (union members shown).toText = Text.join " | " (textsOf false 3 shown) := rfl
  rcases shown with _ | ⟨first, _ | ⟨second, rest⟩⟩
  · exact absurd hlength Bool.noConfusion
  · exact absurd hlength Bool.noConfusion
  · rw [htext, textsOf, textsOf, Text.join_cons_cons]
    simp [hbar]

/-- The units that show that a text is more than a name: one of them stands in every function, record
and union. -/
def structural : Text := "(\x7b|"

theorem structural_mem_toText (h : type.hasBasicShape = true)
    (htype : (∃ calls, type = .callable calls) ∨ (∃ members, type = .record members)
      ∨ ∃ members shown, type = .union members shown) :
    ∃ u ∈ structural, u ∈ type.toText := by
  obtain ⟨calls, rfl⟩ | ⟨members, rfl⟩ | ⟨members, shown, rfl⟩ := htype
  · by_cases hsingle : ∃ c, calls = [c]
    · obtain ⟨c, rfl⟩ := hsingle
      have hgives : c.givesType = true := List.all_eq_true.mp h c (List.mem_singleton_self c)
      exact ⟨_, by decide, open_mem_function hgives⟩
    · exact ⟨_, by decide, brace_mem_overloads fun c hc => hsingle ⟨c, hc⟩⟩
  · exact ⟨_, by decide, brace_mem_record members⟩
  · exact ⟨bar, by decide, bar_mem_union h⟩

/-- The word in front of an array that cannot be written to. -/
def readonlyWord : Text := "readonly "

theorem array_toText (isReadonly : Bool) (element : SourceType) :
    (array isReadonly element).toText
      = (if isReadonly then readonlyWord else [])
        ++ (enclose 4 element.tightness element.toText ++ "[]") := by
  rw [toText, textOf, List.append_assoc]
  cases isReadonly <;> rfl

/-- Texts in angle brackets behind a name. -/
theorem bracketed_of_ne_nil (harguments : arguments ≠ []) :
    bracketed (arguments.map toText)
      = Text.unit '<' :: (Text.join ", " (arguments.map toText) ++ ">") := by
  cases arguments with
  | nil => exact absurd rfl harguments
  | cons first rest => rfl

/-- **A text that is a name** belongs to a type without other types in it. -/
theorem isTypeName_toText (hbasic : type.hasBasicShape = true) (h : type.isCompound = true) :
    isTypeName type.toText = false := by
  have hstructural (hmem : ∃ u ∈ structural, u ∈ type.toText) : isTypeName type.toText = false := by
    obtain ⟨u, hu, hmem⟩ := hmem
    have hall : structural.all (fun u => !isTypeNameUnit u) = true := by decide
    have hnone := List.all_eq_true.mp hall u hu
    rw [Bool.not_eq_true'] at hnone
    exact isTypeName_eq_false hmem hnone
  have hreference {name : Text} {arguments : List SourceType} (hsome : (!arguments.isEmpty) = true)
      (href : type.reference? = some (name, arguments)) : isTypeName type.toText = false := by
    refine isTypeName_eq_false (u := Text.unit '<') ?_ (by decide)
    rw [reference_toText href, bracketed_of_ne_nil (by rintro rfl; exact absurd hsome nofun)]
    exact List.mem_append_right _ List.mem_cons_self
  cases type with
  | array isReadonly element =>
    refine isTypeName_eq_false (u := Text.unit ']') ?_ (by decide)
    rw [array_toText]
    exact List.mem_append_right _ (List.mem_append_right _ (by decide))
  | callable calls => exact hstructural (structural_mem_toText hbasic (.inl ⟨_, rfl⟩))
  | record members => exact hstructural (structural_mem_toText hbasic (.inr (.inl ⟨_, rfl⟩)))
  | union members shown =>
    exact hstructural (structural_mem_toText hbasic (.inr (.inr ⟨_, _, rfl⟩)))
  | named home name arguments => exact hreference h rfl
  | «alias» home name arguments meaning => exact hreference h rfl
  | _ => exact absurd h nofun

/-- **Whether a type is written by a name** does not depend on the order of its unions. -/
theorem toText_arranged_eq_iff (h : type.hasBasicShape = true) (hword : isTypeName word = true) :
    (type.arranged order).toText = word ↔ type.toText = word := by
  cases hcompound : type.isCompound with
  | false => rw [arranged_of_not_isCompound h hcompound]
  | true =>
    have harranged : isTypeName (type.arranged order).toText = false :=
      isTypeName_toText (hasBasicShape_arranged h) (isCompound_arranged.trans hcompound)
    exact iff_of_false (ne_name harranged hword) (ne_name (isTypeName_toText h hcompound) hword)

/-! ## The text of an element -/

/-- A text that starts with another unit does not start with the word. -/
theorem not_readonly_isPrefix_cons {u : UInt16} (hu : u ≠ Text.unit 'r') (t : Text) :
    ¬ readonlyWord <+: u :: t := by
  have hword : readonlyWord = Text.unit 'r' :: "eadonly " := rfl
  rw [hword, List.cons_prefix_cons]
  exact fun h => hu h.1.symm

/-- Behind a name that is the word no blank follows, but a unit that no name has. -/
theorem not_readonly_isPrefix_name {u : UInt16} (hname : isTypeName name = true)
    (hu : isTypeNameUnit u = false) (hblank : u ≠ Text.unit ' ') (rest : Text) :
    ¬ readonlyWord <+: name ++ u :: rest := by
  rintro ⟨t, ht⟩
  have hword : isTypeName "readonly" = true := by decide
  have hsplit : readonlyWord = ("readonly" : Text) ++ [Text.unit ' '] := rfl
  -- Both texts go on behind their names, one with a blank and one with `u`.
  have hbehind := congrArg (List.dropWhile isTypeNameUnit) ht
  rw [hsplit, List.append_assoc, List.singleton_append,
    dropWhile_name_append hword (by decide), dropWhile_name_append hname hu] at hbehind
  exact hblank (List.cons.inj hbehind).1.symm

/-- **No text of an element starts with the word for read-only**, unless it is in parentheses. -/
theorem not_readonly_isPrefix (hbasic : type.IsBasic) (hnames : type.HasTypeNames)
    (htight : ¬ type.tightness < 4) (rest : Text) :
    ¬ readonlyWord <+: type.toText ++ Text.unit '[' :: rest := by
  induction hbasic generalizing rest with
  | @intro type shape parts ih =>
    obtain ⟨hname, hparts⟩ := hnames
    have hword (h : isTypeName type.toText = true) :
        ¬ readonlyWord <+: type.toText ++ Text.unit '[' :: rest :=
      not_readonly_isPrefix_name h (by decide) (by decide) rest
    have hreference {name : Text} {arguments : List SourceType}
        (href : type.reference? = some (name, arguments)) :
        ¬ readonlyWord <+: type.toText ++ Text.unit '[' :: rest := by
      have hname := hname name arguments href
      rw [reference_toText href]
      by_cases harguments : arguments = []
      · rw [harguments]
        simpa [bracketed] using not_readonly_isPrefix_name hname (by decide) (by decide) rest
      · rw [bracketed_of_ne_nil harguments, List.append_assoc, List.cons_append]
        exact not_readonly_isPrefix_name hname (by decide) (by decide) _
    cases type with
    | any | unknown | never | void | undefined | null | string | number | integer | boolean | symbol
      | object => exact hword (by decide)
    | literal value isFresh =>
      cases value with
      | text value => exact not_readonly_isPrefix_cons (by decide) _
      | boolean value => exact hword (by cases value <;> rfl)
      | number | integer => exact absurd shape Bool.false_ne_true
    | array isReadonly element =>
      cases isReadonly with
      | true => exact absurd (Nat.lt_succ_self 3) htight
      | false =>
        have hmem : element ∈ (array false element).parts := List.mem_singleton_self element
        rw [array_toText, if_neg Bool.false_ne_true, List.nil_append, enclose]
        split
        · exact not_readonly_isPrefix_cons (by decide) _
        · next hloose =>
          rw [List.append_assoc]
          exact ih element hmem (hparts element hmem) hloose _
    | callable calls =>
      have hseveral : ∀ c, calls ≠ [c] := by
        rintro c rfl
        exact htight (Nat.zero_lt_succ 3)
      rw [overloads_toText hseveral]
      exact not_readonly_isPrefix_cons (by decide) _
    | record members => cases members <;> exact not_readonly_isPrefix_cons (by decide) _
    | union members shown => exact absurd (Nat.lt_of_lt_of_le Nat.one_lt_two (by decide)) htight
    | named | «alias» | unresolved | parameter | enumeration => exact hreference rfl
    | _ => exact absurd shape Bool.false_ne_true

theorem dropStart?_append (start t : Text) : Text.dropStart? start (start ++ t) = some t := by
  induction start with
  | nil => rw [List.nil_append, Text.dropStart?]
  | cons u start ih => rw [List.cons_append, Text.dropStart?, if_pos rfl, ih]

theorem dropStart?_of_not_isPrefix {start t : Text} (h : ¬ start <+: t) :
    Text.dropStart? start t = none := by
  fun_induction Text.dropStart? start t with
  | case1 t => exact absurd List.nil_prefix h
  | case2 => rfl
  | case3 u start t ih => exact ih fun hprefix => h (List.cons_prefix_cons.mpr ⟨rfl, hprefix⟩)
  | case4 => rfl

/-- **Without the notation for arrays** the text of the element is left, in the parentheses that stand
around it. -/
theorem elementType_toText (hbasic : element.IsBasic) (hnames : element.HasTypeNames)
    (isReadonly : Bool) :
    elementType (array isReadonly element).toText
      = enclose 4 element.tightness element.toText := by
  have hbare : (Text.dropStart? readonlyWord (array isReadonly element).toText).getD
        (array isReadonly element).toText
      = enclose 4 element.tightness element.toText ++ "[]" := by
    rw [array_toText]
    cases isReadonly with
    | true => rw [if_pos rfl, dropStart?_append, Option.getD_some]
    | false =>
      rw [if_neg Bool.false_ne_true, List.nil_append, dropStart?_of_not_isPrefix, Option.getD_none]
      rw [enclose]
      split
      · exact not_readonly_isPrefix_cons (by decide) _
      · next hloose => exact not_readonly_isPrefix hbasic hnames hloose _
  have hends : (enclose 4 element.tightness element.toText ++ "[]").endsWith "[]" = true :=
    List.isSuffixOf_iff_suffix.mpr (List.suffix_append _ _)
  have htwo : ("[]" : Text).length = 2 := rfl
  rw [elementType]
  simp only [readonlyWord] at hbare
  rw [hbare, if_pos hends, List.length_append, htwo, Nat.add_sub_cancel, List.take_left']
  rfl

end SourceType

end Turnstile.Source
