import Turnstile.CommandLine.Argument
import Turnstile.Proofs.Signature.Admission
import Turnstile.Proofs.Source.ElementTypes
import Turnstile.Source.Described

/-! # Rest parameters

The kind of a rest parameter is read off the text of its type, without the notation for arrays. It is
compared with the kind of an ordinary parameter of the element type.

* **`SourceType.ofType_toText_arranged`**: the kind of a type does not depend on the order in which
  unions are written.
* **`SourceType.ofType_enclose`**: parentheses around an element take its kind away from one type only,
  the lists of numbers that cannot be written to.
* **`FormalType.rest_kind`** compares the two parameters. -/

namespace Turnstile

namespace ValueKind

variable {t : Text}

/-- A text that is not among those of the checked types is of no kind. -/
theorem ofType_of_not_mem (h : t ∉ checkedTypes.map Prod.fst) : ofType t = .opaqueValue := by
  have hnone : checkedTypes.lookup t = none := by
    rw [List.lookup_eq_none_iff]
    intro p hp
    rw [bne_iff_ne]
    rintro rfl
    exact h (List.mem_map_of_mem hp)
  rw [ofType, hnone, Option.getD_none]

end ValueKind

namespace Source.SourceType

open ValueKind

variable {type element : SourceType} {order : List Text} {name word text : Text}
  {arguments : List SourceType}

/-! ## Kinds of texts -/

/-- Functions, records and unions are not checked, and nothing in parentheses is. -/
theorem ofType_of_structural (h : ∃ u ∈ structural, u ∈ text) : ofType text = .opaqueValue := by
  obtain ⟨u, hu, hmem⟩ := h
  have hnone : (checkedTypes.map Prod.fst).all (fun t => structural.all fun u => !t.contains u)
      = true := by decide
  refine ofType_of_not_mem fun htext => ?_
  have hnot := List.all_eq_true.mp (List.all_eq_true.mp hnone text htext) u hu
  rw [List.contains_iff_mem.mpr hmem] at hnot
  exact absurd hnot nofun

/-- Of what ends in brackets only lists of numbers are checked. -/
theorem eq_number_of_list (hmem : text ∈ checkedTypes.map Prod.fst) (h : text.endsWith "[]" = true) :
    elementType text = "number" := by
  revert text
  decide

/-- Of what has type arguments only those with a single name for an argument are checked. -/
theorem ofType_of_arguments (hname : isTypeName name = true) (h : isTypeName text = false) :
    ofType (name ++ Text.unit '<' :: (text ++ ">")) = .opaqueValue := by
  refine ofType_of_not_mem fun hmem => ?_
  -- What stands behind the names of the checked types.
  have hchecked : ∀ t ∈ checkedTypes.map Prod.fst, (t.dropWhile isTypeNameUnit).head? = Text.unit '<' →
      isTypeName (t.dropWhile isTypeNameUnit).tail.dropLast = true := by
    decide
  have hargument := hchecked _ hmem
  rw [dropWhile_name_append hname (by decide)] at hargument
  have hlast : (text ++ ">").dropLast = text := List.dropLast_concat
  rw [List.tail_cons, hlast, h] at hargument
  exact Bool.noConfusion (hargument rfl)

/-! ## Kinds of types -/

/-- A type of no other types needs no parentheses. -/
theorem tightness_of_not_isCompound (hbasic : type.hasBasicShape = true)
    (h : type.isCompound = false) : ¬ type.tightness < 4 := by
  cases type with
  | array | callable | record | union => exact absurd h nofun
  | tuple | constructable | intersection | keysOf | indexed | deferred | valueOf | moduleValue =>
    exact absurd hbasic nofun
  | _ => exact Nat.lt_irrefl 4

/-- What is in parentheses is not checked. -/
theorem open_mem_parentheses (text : Text) : ∃ u ∈ structural, u ∈ ("(" : Text) ++ text ++ ")" :=
  ⟨Text.unit '(', by decide, List.mem_cons_self⟩

/-- Only a name that stands without parentheses is read as a name. -/
theorem enclose_eq_iff (hbasic : type.hasBasicShape = true) (hword : isTypeName word = true) :
    enclose 4 type.tightness type.toText = word ↔ type.toText = word := by
  rw [enclose]
  split
  · next hloose =>
    have hcompound : type.isCompound = true := by
      by_contra h
      exact tightness_of_not_isCompound hbasic (Bool.not_eq_true _ ▸ h) hloose
    have hopen : Text.unit '(' ∈ ("(" : Text) ++ type.toText ++ ")" := List.mem_cons_self
    exact iff_of_false (ne_name (isTypeName_eq_false hopen (by decide)) hword)
      (ne_name (isTypeName_toText hbasic hcompound) hword)
  · exact Iff.rfl

/-- **The kind of an array**: only one of numbers is checked. -/
theorem ofType_array (hbasic : element.IsBasic) (hnames : element.HasTypeNames) (isReadonly : Bool) :
    ofType (array isReadonly element).toText
      = if element.toText = "number" then .numberArray else .opaqueValue := by
  obtain ⟨shape, -⟩ := id hbasic
  have hnumber : isTypeName "number" = true := by decide
  split
  · next htext =>
    rw [array_toText, (enclose_eq_iff shape hnumber).mpr htext]
    cases isReadonly <;> rfl
  · next htext =>
    refine ofType_of_not_mem fun hmem => htext ?_
    have hends : (array isReadonly element).toText.endsWith "[]" = true := by
      rw [array_toText, ← List.append_assoc]
      exact List.isSuffixOf_iff_suffix.mpr (List.suffix_append _ _)
    have helement := eq_number_of_list hmem hends
    rw [elementType_toText hbasic hnames] at helement
    exact (enclose_eq_iff shape hnumber).mp helement

/-- Whether type arguments are a single name does not depend on the order of their unions. -/
theorem join_arranged_eq_iff (h : ∀ a ∈ arguments, a.hasBasicShape = true)
    (hword : isTypeName word = true) :
    Text.join ", " ((arguments.map (arranged order)).map toText) = word
      ↔ Text.join ", " (arguments.map toText) = word := by
  rcases arguments with _ | ⟨first, _ | ⟨second, rest⟩⟩
  · exact Iff.rfl
  · simpa [Text.join, List.intercalate] using
      toText_arranged_eq_iff (h first (List.mem_singleton_self first)) hword
  · -- Between two arguments there is a comma, which no name has.
    have hcomma (a b : Text) (rest : List Text) : Text.join ", " (a :: b :: rest) ≠ word := by
      refine ne_name (isTypeName_eq_false (u := Text.unit ',') ?_ (by decide)) hword
      rw [Text.join_cons_cons]
      exact List.mem_append_left _ (List.mem_append_right _ (by decide))
    exact iff_of_false (hcomma _ _ _) (hcomma _ _ _)

/-- The kind of a type that goes by a name does not depend on the order of unions in its arguments. -/
theorem ofType_arguments_arranged (hname : isTypeName name = true)
    (h : ∀ a ∈ arguments, a.hasBasicShape = true) :
    ofType (name ++ bracketed ((arguments.map (arranged order)).map toText))
      = ofType (name ++ bracketed (arguments.map toText)) := by
  by_cases hsome : arguments = []
  · rw [hsome]
    rfl
  have hmap : arguments.map (arranged order) ≠ [] := by simpa using hsome
  rw [bracketed_of_ne_nil hsome, bracketed_of_ne_nil hmap]
  have hiff {word : Text} (hword : isTypeName word = true) :
      Text.join ", " ((arguments.map (arranged order)).map toText) = word
        ↔ Text.join ", " (arguments.map toText) = word :=
    join_arranged_eq_iff h hword
  generalize Text.join ", " (arguments.map toText) = before at hiff
  generalize Text.join ", " ((arguments.map (arranged order)).map toText) = after at hiff
  by_cases hbefore : isTypeName before = true
  · rw [(hiff hbefore).mpr rfl]
  · by_cases hafter : isTypeName after = true
    · rw [(hiff hafter).mp rfl]
    · rw [Bool.not_eq_true] at hbefore hafter
      rw [ofType_of_arguments hname hbefore, ofType_of_arguments hname hafter]

/-- **The kind of a type does not depend on the order** in which unions are written. -/
theorem ofType_toText_arranged (hbasic : type.IsBasic) (hnames : type.HasTypeNames) :
    ofType (type.arranged order).toText = ofType type.toText := by
  obtain ⟨shape, hparts⟩ := id hbasic
  cases hcompound : type.isCompound with
  | false => rw [arranged_of_not_isCompound shape hcompound]
  | true =>
    have hstructural (htype : (∃ calls, type = .callable calls) ∨ (∃ members, type = .record members)
        ∨ ∃ members shown, type = .union members shown)
        (harranged : (∃ calls, type.arranged order = .callable calls)
          ∨ (∃ members, type.arranged order = .record members)
          ∨ ∃ members shown, type.arranged order = .union members shown) :
        ofType (type.arranged order).toText = ofType type.toText := by
      rw [ofType_of_structural (structural_mem_toText shape htype),
        ofType_of_structural (structural_mem_toText (hasBasicShape_arranged shape) harranged)]
    obtain ⟨hname, hpartNames⟩ := id hnames
    have hreference {name : Text} {arguments : List SourceType}
        (href : type.reference? = some (name, arguments))
        (harranged : (type.arranged order).reference? = some (name, arguments.map (arranged order))) :
        ofType (type.arranged order).toText = ofType type.toText := by
      rw [reference_toText href, reference_toText harranged]
      refine ofType_arguments_arranged (hname _ _ href) fun a ha => ?_
      obtain ⟨hshape, -⟩ := hparts a (parts_of_reference? href ▸ ha)
      exact hshape
    cases type with
    | array isReadonly element =>
      have hmem : element ∈ (array isReadonly element).parts := List.mem_singleton_self element
      obtain ⟨helement, -⟩ := hparts element hmem
      rw [arranged, ofType_array (hparts element hmem) (hpartNames element hmem),
        ofType_array (isBasic_arranged (hparts element hmem))
          (hasTypeNames_arranged (hpartNames element hmem))]
      simp only [toText_arranged_eq_iff helement (by decide : isTypeName "number" = true)]
    | callable calls => exact hstructural (.inl ⟨_, rfl⟩) (.inl ⟨_, rfl⟩)
    | record members => exact hstructural (.inr (.inl ⟨_, rfl⟩)) (.inr (.inl ⟨_, rfl⟩))
    | union members shown =>
      exact hstructural (.inr (.inr ⟨_, _, rfl⟩)) (.inr (.inr ⟨_, _, rfl⟩))
    | named home name arguments | «alias» home name arguments meaning =>
      refine hreference rfl ?_
      rw [arranged, arrangedAll_eq_map, reference?]
    | _ => exact absurd hcompound nofun

/-- **Lists of numbers that cannot be written to**: what is checked when it stands by itself, and not
when it is in parentheses. -/
def isReadonlyNumbers : SourceType → Bool
  | .array true element => element.toText == "number"
  | _ => false

theorem isReadonlyNumbers_iff :
    type.isReadonlyNumbers = true
      ↔ ∃ element, type = .array true element ∧ element.toText = "number" := by
  unfold isReadonlyNumbers
  split <;> simp_all

theorem isReadonlyNumbers_arranged (hbasic : type.IsBasic) :
    (type.arranged order).isReadonlyNumbers = type.isReadonlyNumbers := by
  obtain ⟨-, hparts⟩ := hbasic
  cases type with
  | array isReadonly element =>
    cases isReadonly with
    | false => rfl
    | true =>
      obtain ⟨helement, -⟩ := hparts element (List.mem_singleton_self element)
      rw [arranged, isReadonlyNumbers, isReadonlyNumbers, Bool.eq_iff_iff, beq_iff_eq, beq_iff_eq]
      exact toText_arranged_eq_iff helement (by decide)
  | _ => rfl

/-- **The kind of an element** is that of its type, unless its text is put in parentheses and would be
checked without them. -/
theorem ofType_enclose (hbasic : type.IsBasic) (hnames : type.HasTypeNames) :
    ofType (enclose 4 type.tightness type.toText)
      = if type.isReadonlyNumbers then .opaqueValue else ofType type.toText := by
  obtain ⟨shape, hparts⟩ := id hbasic
  obtain ⟨-, hpartNames⟩ := id hnames
  rw [enclose]
  split
  · next hloose =>
    rw [ofType_of_structural (open_mem_parentheses _)]
    cases type with
    | callable calls =>
      rw [ofType_of_structural (structural_mem_toText shape (.inl ⟨_, rfl⟩)), ite_self]
    | union members shown =>
      rw [ofType_of_structural (structural_mem_toText shape (.inr (.inr ⟨_, _, rfl⟩))), ite_self]
    | array isReadonly element =>
      have hmem : element ∈ (array isReadonly element).parts := List.mem_singleton_self element
      cases isReadonly with
      | false => exact absurd hloose (Nat.lt_irrefl 4)
      | true =>
        rw [ofType_array (hparts element hmem) (hpartNames element hmem), isReadonlyNumbers]
        by_cases hnumber : element.toText = "number"
        · rw [if_pos (beq_iff_eq.mpr hnumber)]
        · rw [if_neg hnumber, ite_self]
    | constructable | intersection | tuple | keysOf | valueOf | moduleValue | deferred =>
      exact absurd shape Bool.false_ne_true
    | _ => exact absurd hloose (Nat.lt_irrefl 4)
  · next htight =>
    rw [if_neg]
    intro h
    obtain ⟨element, rfl, -⟩ := isReadonlyNumbers_iff.mp h
    exact htight (Nat.lt_succ_self 3)

/-- A list of numbers that cannot be written to is checked when it stands by itself. -/
theorem ofType_of_isReadonlyNumbers (hbasic : type.IsBasic) (hnames : type.HasTypeNames)
    (h : type.isReadonlyNumbers = true) : ofType type.toText = .numberArray := by
  obtain ⟨-, hparts⟩ := hbasic
  obtain ⟨-, hpartNames⟩ := hnames
  obtain ⟨element, rfl, hnumber⟩ := isReadonlyNumbers_iff.mp h
  have hmem : element ∈ (array true element).parts := List.mem_singleton_self element
  rw [ofType_array (hparts element hmem) (hpartNames element hmem), if_pos hnumber]

end Source.SourceType

open Source

/-! ## The arguments of a rest parameter -/

/-- **A rest parameter stands at its own place and at all places behind it.** -/
theorem Signature.parameterAt?_of_rest {s : Signature} {p : Parameter} {i : Nat}
    (hlast : s.parameters.getLast? = some p) (hrest : p.isRest = true)
    (hi : s.parameters.length ≤ i + 1) : s.parameterAt? i = some p := by
  have hself : s.rest? = some p := by simp [rest?, hlast, hrest]
  rw [parameterAt?_eq, hself]
  obtain hlt | hle := Nat.lt_or_ge i s.parameters.length
  · have hplace : i = s.parameters.length - 1 := by omega
    rw [hplace, ← List.getLast?_eq_getElem?, hlast]
    rfl
  · rw [List.getElem?_eq_none hle]
    rfl

/-- A parameter's kind is read off the text of its type; a rest parameter's, without the notation for
arrays. -/
theorem Source.FormalType.kind_describe (formal : FormalType) (place : Nat) (order : List Text) :
    ∃ order', ((formal.describe false place).run order).1.kind
      = .ofType (if formal.isRest then elementType (formal.declared.arranged order').toText
          else (formal.declared.arranged order').toText) :=
  ⟨_, rfl⟩

/-- The kind of a parameter of a basic type. -/
theorem Source.FormalType.kind_ordinary {formal : FormalType} {type : SourceType}
    (hbasic : type.IsBasic) (hnames : type.HasTypeNames) (hrest : formal.isRest = false)
    (htype : formal.declared = type) (place : Nat) (order : List Text) :
    ((formal.describe false place).run order).1.kind = .ofType type.toText := by
  obtain ⟨order', hkind⟩ := formal.kind_describe place order
  rw [hkind, hrest, if_neg Bool.false_ne_true, htype]
  exact SourceType.ofType_toText_arranged hbasic hnames

/-- The kind of a rest parameter with elements of a basic type. -/
theorem Source.FormalType.kind_rest {formal : FormalType} {type : SourceType} {isReadonly : Bool}
    (hbasic : type.IsBasic) (hnames : type.HasTypeNames) (hrest : formal.isRest = true)
    (hlist : formal.declared = .array isReadonly type) (place : Nat) (order : List Text) :
    ((formal.describe false place).run order).1.kind
      = if type.isReadonlyNumbers then .opaqueValue else .ofType type.toText := by
  obtain ⟨order', hkind⟩ := formal.kind_describe place order
  have hbasic' : (type.arranged order').IsBasic := SourceType.isBasic_arranged hbasic
  have hnames' : (type.arranged order').HasTypeNames := SourceType.hasTypeNames_arranged hnames
  rw [hkind, if_pos hrest, hlist, SourceType.arranged, SourceType.elementType_toText hbasic' hnames',
    SourceType.ofType_enclose hbasic' hnames', SourceType.isReadonlyNumbers_arranged hbasic,
    SourceType.ofType_toText_arranged hbasic hnames]

/-- Two parameters of the same kind let the same values through. -/
theorem Parameter.admit_eq_ok_iff_of_kind_eq {p q : Parameter} (h : p.kind = q.kind)
    {argument : Value} (hargument : argument ≠ .undefined) :
    p.admit argument = .ok () ↔ q.admit argument = .ok () := by
  rw [p.admit_of_ne_undefined hargument, q.admit_of_ne_undefined hargument, h]
  split
  · exact Iff.rfl
  · exact iff_of_false nofun nofun

/-- **A rest parameter beside an ordinary one** of the element type. They are of the same kind, read
the same texts alike and admit the same arguments, `undefined` aside, unless the elements are lists
of numbers that cannot be written to: then the rest parameter takes every text as it is, and every
argument. -/
theorem Source.FormalType.rest_kind (rest ordinary : FormalType) (isReadonly : Bool)
    (type : SourceType) (hbasic : type.IsBasic) (hnames : type.HasTypeNames)
    (hrest : rest.isRest = true) (hlist : rest.declared = .array isReadonly type)
    (hordinary : ordinary.isRest = false) (htype : ordinary.declared = type) (place other : Nat)
    (order otherOrder : List Text) :
    let p := ((rest.describe false place).run order).1
    let q := ((ordinary.describe false other).run otherOrder).1
    q.kind = .ofType type.toText
      ∧ (type.isReadonlyNumbers = false →
          p.kind = q.kind
          ∧ ∀ (s s' : Signature) (i j : Nat), s.parameters.getLast? = some p →
              s.parameters.length ≤ i + 1 → s'.parameters[j]? = some q →
              (∀ raw, s.readArgument i raw = s'.readArgument j raw)
              ∧ ∀ arguments arguments', argument arguments i = argument arguments' j →
                  argument arguments i ≠ .undefined →
                  (s.admitAt arguments i = .ok () ↔ s'.admitAt arguments' j = .ok ()))
      ∧ (type.isReadonlyNumbers = true →
          q.kind = .numberArray ∧ p.kind = .opaqueValue
          ∧ ∀ (s : Signature) (i : Nat), s.parameters.getLast? = some p →
              s.parameters.length ≤ i + 1 →
              (∀ raw, s.readArgument i raw = .ok (.text raw))
              ∧ ∀ arguments, argument arguments i ≠ .undefined → s.admitAt arguments i = .ok ()) := by
  intro p q
  have hq : q.kind = .ofType type.toText :=
    FormalType.kind_ordinary hbasic hnames hordinary htype other otherOrder
  have hp : p.kind = if type.isReadonlyNumbers then .opaqueValue else .ofType type.toText :=
    FormalType.kind_rest hbasic hnames hrest hlist place order
  have hpRest : p.isRest = true := hrest
  refine ⟨hq, fun hnot => ?_, fun hreadonly => ?_⟩
  · have hkinds : p.kind = q.kind := by rw [hp, hq, hnot, if_neg Bool.false_ne_true]
    refine ⟨hkinds, fun s s' i j hlast hi hj => ?_⟩
    have hat := Signature.parameterAt?_of_rest hlast hpRest hi
    have hat' : s'.parameterAt? j = some q := by rw [Signature.parameterAt?, hj]
    refine ⟨fun raw => ?_, fun arguments arguments' hsame hargument => ?_⟩
    · simp only [Signature.readArgument, hat, hat', hkinds]
    · rw [Signature.admitAt, Signature.admitAt, hat, hat', ← hsame]
      exact Parameter.admit_eq_ok_iff_of_kind_eq hkinds hargument
  · have hkind : p.kind = .opaqueValue := by rw [hp, hreadonly, if_pos rfl]
    refine ⟨hq.trans (SourceType.ofType_of_isReadonlyNumbers hbasic hnames hreadonly), hkind,
      fun s i hlast hi => ?_⟩
    have hat := Signature.parameterAt?_of_rest hlast hpRest hi
    refine ⟨fun raw => ?_, fun arguments hargument => ?_⟩
    · simp only [Signature.readArgument, hat, hkind]
      rfl
    · rw [Signature.admitAt, hat, admitPlace, p.admit_of_ne_undefined hargument, hkind]
      rfl

/-- The type of what is read like an array of numbers: `ArrayLike<number>`. -/
def seriesType : SourceType := .standard "ArrayLike" [.number]

/-- One series. -/
def oneSeries : FormalType := ⟨"first", false, false, seriesType, seriesType, false⟩

/-- Any number of series, in an array that cannot be written to. -/
def moreSeries : FormalType := ⟨"more", true, true, seriesType, .array true seriesType, false⟩

/-- A function of one series or more. -/
def plot : Signature where
  name := "plot"
  parameters := [((oneSeries.describe false 0).run []).1, ((moreSeries.describe false 1).run []).1]
  resultType := "void"
  resultKind := .void

theorem isBasic_seriesType : seriesType.IsBasic := by
  refine .intro (by decide) fun part hpart => ?_
  rw [List.mem_singleton.mp hpart]
  exact .intro rfl fun _ hnone => absurd hnone List.not_mem_nil

theorem hasTypeNames_seriesType : seriesType.HasTypeNames := by
  refine .intro (fun name arguments href => ?_) fun part hpart => ?_
  · obtain ⟨rfl, -⟩ := Prod.mk.inj (Option.some.inj href)
    decide
  · rw [List.mem_singleton.mp hpart]
    exact .intro nofun fun _ hnone => absurd hnone List.not_mem_nil

/-- The third series is read and checked like the first one. -/
theorem Source.FormalType.rest_kind_plot :
    seriesType.IsBasic ∧ seriesType.HasTypeNames ∧ seriesType.isReadonlyNumbers = false
      ∧ plot.parameters.map (·.type) = ["ArrayLike<number>", "readonly ArrayLike<number>[]"]
      ∧ plot.parameters.map (·.kind) = [.numberArray, .numberArray]
      ∧ plot.readArgument 2 "1;2" = .error (.notANumber "1;2")
      ∧ plot.admitAt [.null, .null, .array []] 2 = .ok () := by
  obtain ⟨hone, hrest, -⟩ := FormalType.rest_kind moreSeries oneSeries true seriesType
    isBasic_seriesType hasTypeNames_seriesType rfl rfl rfl rfl 1 0 [] []
  obtain ⟨hkinds, hplaces⟩ := hrest rfl
  have hfirst : ((oneSeries.describe false 0).run []).1.kind = .numberArray := hone.trans (by decide)
  obtain ⟨hread, hchecked⟩ := hplaces plot plot 2 0 rfl (by decide) rfl
  refine ⟨isBasic_seriesType, hasTypeNames_seriesType, rfl, rfl, ?_, ?_, ?_⟩
  · have hmore : ((moreSeries.describe false 1).run []).1.kind = .numberArray := hkinds.trans hfirst
    rw [plot, List.map_cons, List.map_cons, hfirst, hmore]
    rfl
  · rw [hread]
    rfl
  · exact (hchecked _ [.array []] rfl (by simp [argument])).mpr rfl

/-- **Lists of numbers behind a rest parameter are not checked**: where `x: readonly number[]` refuses a
text, `...xs: (readonly number[])[]` takes it. -/
theorem Source.FormalType.rest_of_readonly_numbers :
    let element : SourceType := .array true .number
    let rest : FormalType := ⟨"xs", true, true, element, .array false element, false⟩
    let one : FormalType := ⟨"x", false, false, element, element, false⟩
    let p := ((rest.describe false 0).run []).1
    let q := ((one.describe false 0).run []).1
    p.type = "(readonly number[])[]" ∧ q.type = "readonly number[]"
      ∧ p.kind = .opaqueValue ∧ q.kind = .numberArray
      ∧ p.admit (.text "a") = .ok () ∧ q.admit (.text "a") = .error (.wrongKind q (.text "a")) := by
  refine ⟨rfl, rfl, by decide, by decide, ?_, ?_⟩ <;> rfl

end Turnstile
