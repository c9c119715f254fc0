import Turnstile.Proofs.Text.Bars
import Turnstile.Source.Type.Order

/-! # Basic types

The types that are written by keywords, quoted texts, names with type arguments, arrays, records,
functions and unions, and what is written inside of them.

* **`SourceType.parts`** are the types that stand in the text of a type, and **`SourceType.words`** the
  quoted texts and the names in it.
* **`SourceType.IsBasic`** is the grammar: a shape (`SourceType.hasBasicShape`) with basic types as
  parts.
* **`SourceType.isBasic_arranged`**: the order in which unions are written does not matter.

Texts are those of `SourceType.toText`, which writes every type in full. -/

namespace Turnstile.Source

open Text (bar ShowsUndefined)

/-! ## What stands in the text of a type -/

/-- The type that is written for a parameter. -/
def FormalType.shownType (f : FormalType) : SourceType := if f.hasDefault then f.declared else f.type

/-- The types in the text of a way to be called. -/
def CallType.parts (c : CallType) : List SourceType :=
  c.typeFormals.flatMap (fun f => f.bound.toList ++ f.default.toList) ++ c.receiver.toList
    ++ c.formals.map FormalType.shownType ++ [c.result]

/-- The names in the text of a way to be called. -/
def CallType.words (c : CallType) : List Text :=
  c.typeFormals.map (·.name) ++ c.formals.map (·.name)

/-- The types in the text of a member. -/
def MemberType.parts : MemberType → List SourceType
  | .property _ _ _ type => [type]
  | .method _ _ c => c.parts
  | .call c => c.parts
  | .construct c => c.parts
  | .index _ _ key type => [key, type]

/-- The names in the text of a member, quoted where they have to be. -/
def MemberType.words : MemberType → List Text
  | .property name .. => [memberText name]
  | .method name _ c => memberText name :: c.words
  | .call c => c.words
  | .construct c => c.words
  | .index name .. => [name]

namespace SourceType

/-- **The types in the text of a type**, as far as it is one of the basic ones. -/
def parts : SourceType → List SourceType
  | .array _ element => [element]
  | .callable calls => calls.flatMap CallType.parts
  | .record members => members.flatMap MemberType.parts
  | .union _ shown => shown
  | .named _ _ arguments => arguments
  | .alias _ _ arguments _ => arguments
  | .unresolved _ arguments => arguments
  | _ => []

/-- **The texts in the text of a type** that are no types: what is quoted, and the names of members
and parameters. -/
def words : SourceType → List Text
  | .literal (.text value) _ => [Literal.toText (.text value)]
  | .callable calls => calls.flatMap CallType.words
  | .record members => members.flatMap MemberType.words
  | _ => []

end SourceType

/-! ## The grammar -/

/-- Whether a type is written behind the parameters, and not a statement about one of them. -/
def CallType.givesType (c : CallType) : Bool := c.predicate.isNone

/-- Whether the ways to be called in a member give types. -/
def MemberType.givesTypes : MemberType → Bool
  | .method _ _ c => c.givesType
  | .call c => c.givesType
  | .construct c => c.givesType
  | _ => true

namespace SourceType

def isUndefined : SourceType → Bool
  | .undefined => true
  | _ => false

theorem isUndefined_iff {type : SourceType} : type.isUndefined = true ↔ type = .undefined := by
  cases type <;> simp [isUndefined]

/-- A name that goes for a type: without bars, and none of the words that let an argument be left
out. -/
def isReferenceName (name : Text) : Bool :=
  !name.contains bar && name.trim != "undefined" && name != "unknown" && name != "any"

/-- Whether `undefined` comes last among some types, if it is there at all. -/
def isUndefinedLast (types : List SourceType) : Bool :=
  types.dropLast.all fun type => !type.isUndefined

/-- **The shapes of basic types.** A union is written by two types or more, with `undefined` last if
it is one of them. -/
def hasBasicShape : SourceType → Bool
  | .any | .unknown | .never | .void | .undefined | .null => true
  | .string | .number | .integer | .boolean | .symbol | .object => true
  | .literal (.text _) _ => true
  | .literal (.boolean _) _ => true
  | .array .. => true
  | .callable calls => calls.all CallType.givesType
  | .record members => members.all MemberType.givesTypes
  | .union _ shown => 2 ≤ shown.length && isUndefinedLast shown
  | .named _ name _ => isReferenceName name
  | .alias _ name _ _ => isReferenceName name
  | .unresolved name _ => isReferenceName name
  | .parameter _ name _ => isReferenceName name
  | .enumeration _ name _ => isReferenceName name
  | _ => false

/-- **Basic types**: of a basic shape, and with basic types in their text. The text is the full one;
nothing is said about a text that is cut at 320 units. -/
inductive IsBasic : SourceType → Prop
  | intro {type : SourceType} (shape : type.hasBasicShape = true)
      (parts : ∀ part ∈ type.parts, IsBasic part) : IsBasic type

/-! ## Where undefined is written -/

/-- **Types that let an argument be left out**: those of anything, `undefined`, and unions that are
written with `undefined` as a member. -/
def takesUndefined : SourceType → Bool
  | .any => true
  | .unknown => true
  | .undefined => true
  | .union _ shown => shown.any isUndefined
  | _ => false

/-- **Types whose text ends in a bar and `undefined`**: unions with `undefined`, and functions whose
result is such a type. -/
inductive EndsInUndefined : SourceType → Prop
  | union {members shown : List SourceType} (h : .undefined ∈ shown) :
      EndsInUndefined (.union members shown)
  | result {call : CallType} (h : EndsInUndefined call.result) : EndsInUndefined (.callable [call])

/-- **Types with `undefined` between two bars of a quoted text**, or of a name in their text. -/
inductive QuotesUndefined : SourceType → Prop
  | word {type : SourceType} {word : Text} (hword : word ∈ type.words)
      (h : ShowsUndefined false false word) : QuotesUndefined type
  | part {type part : SourceType} (hpart : part ∈ type.parts) (h : QuotesUndefined part) :
      QuotesUndefined type

variable {type : SourceType} {order : List Text}

theorem isUndefinedLast_cons {rest : List SourceType} :
    isUndefinedLast (type :: rest) = true
      ↔ rest = [] ∨ type.isUndefined = false ∧ isUndefinedLast rest = true := by
  cases rest <;> simp [isUndefinedLast]

theorem endsInUndefined_union {members shown : List SourceType} :
    EndsInUndefined (.union members shown) ↔ .undefined ∈ shown :=
  ⟨fun | .union h => h, .union⟩

theorem endsInUndefined_callable {call : CallType} :
    EndsInUndefined (.callable [call]) ↔ call.result.EndsInUndefined :=
  ⟨fun | .result h => h, .result⟩

/-- Whether `undefined` is quoted in one of some texts, or in the text of one of some types. -/
def QuotesIn (words : List Text) (parts : List SourceType) : Prop :=
  (∃ word ∈ words, ShowsUndefined false false word) ∨ ∃ part ∈ parts, part.QuotesUndefined

theorem quotesUndefined_iff : type.QuotesUndefined ↔ QuotesIn type.words type.parts :=
  ⟨fun | .word hword h => .inl ⟨_, hword, h⟩ | .part hpart h => .inr ⟨_, hpart, h⟩,
    fun | .inl ⟨_, hword, h⟩ => .word hword h | .inr ⟨_, hpart, h⟩ => .part hpart h⟩

/-- A type without texts of its own quotes what its parts do. -/
theorem not_quotesUndefined (hwords : type.words = [])
    (hparts : ∀ part ∈ type.parts, ¬ part.QuotesUndefined) : ¬ type.QuotesUndefined := by
  rintro (⟨hword, -⟩ | ⟨hpart, h⟩)
  · exact List.not_mem_nil (hwords ▸ hword)
  · exact hparts _ hpart h

theorem quotesIn_nil : ¬ QuotesIn [] [] := by
  simp [QuotesIn]

theorem quotesIn_cons {word : Text} {words : List Text} {parts : List SourceType} :
    QuotesIn (word :: words) parts ↔ ShowsUndefined false false word ∨ QuotesIn words parts := by
  simp [QuotesIn, or_assoc]

/-- What is quoted in several things together is quoted in one of them. -/
theorem quotesIn_flatMap {α : Type} (xs : List α) (words : α → List Text)
    (parts : α → List SourceType) :
    QuotesIn (xs.flatMap words) (xs.flatMap parts) ↔ ∃ x ∈ xs, QuotesIn (words x) (parts x) := by
  simp only [QuotesIn, List.mem_flatMap]
  grind

/-! ## The order of unions -/

theorem arrangedAll_eq_map (types : List SourceType) :
    arrangedAll order types = types.map (arranged order) := by
  induction types with
  | nil => rfl
  | cons type rest ih => rw [arrangedAll, ih, List.map_cons]

theorem arrangedCalls_eq_map (calls : List CallType) :
    arrangedCalls order calls = calls.map (arrangedCall order) := by
  induction calls with
  | nil => rfl
  | cons call rest ih => rw [arrangedCalls, ih, List.map_cons]

/-- A member with its unions in an order. -/
def arrangedMember (order : List Text) : MemberType → MemberType
  | .property name isOptional isReadonly type =>
    .property name isOptional isReadonly (arranged order type)
  | .method name isOptional call => .method name isOptional (arrangedCall order call)
  | .call call => .call (arrangedCall order call)
  | .construct call => .construct (arrangedCall order call)
  | .index name isReadonly key type =>
    .index name isReadonly (arranged order key) (arranged order type)

theorem arrangedMembers_eq_map (members : List MemberType) :
    arrangedMembers order members = members.map (arrangedMember order) := by
  induction members with
  | nil => rfl
  | cons m rest ih => cases m <;> rw [arrangedMembers, ih, List.map_cons, arrangedMember]

/-- The types written for arranged parameters. -/
theorem shownType_arrangedFormals (formals : List FormalType) :
    (arrangedFormals order formals).map FormalType.shownType
      = formals.map fun f => arranged order f.shownType := by
  induction formals with
  | nil => rfl
  | cons f rest ih =>
    obtain ⟨name, isOptional, isRest, type, declared, hasDefault⟩ := f
    rw [arrangedFormals, List.map_cons, List.map_cons, ih]
    cases hasDefault <;> rfl

/-- **What stands in the text of an arranged type** stands in the type's own, arranged or as it is. -/
theorem mem_parts_arrangedCall {call : CallType} {part : SourceType}
    (h : part ∈ (arrangedCall order call).parts) :
    part ∈ call.parts ∨ ∃ p ∈ call.parts, part = arranged order p := by
  obtain ⟨typeFormals, receiver, formals, result, predicate, isSynthetic⟩ := call
  rw [arrangedCall, CallType.parts, shownType_arrangedFormals] at h
  simp only [CallType.parts, List.mem_append, List.mem_singleton, List.mem_map] at h ⊢
  rcases h with ((h | h) | ⟨f, hf, rfl⟩) | rfl
  · exact .inl (.inl (.inl (.inl h)))
  · exact .inl (.inl (.inl (.inr h)))
  · exact .inr ⟨_, .inl (.inr ⟨f, hf, rfl⟩), rfl⟩
  · exact .inr ⟨_, .inr rfl, rfl⟩

theorem mem_parts_arrangedMember {m : MemberType} {part : SourceType}
    (h : part ∈ (arrangedMember order m).parts) :
    part ∈ m.parts ∨ ∃ p ∈ m.parts, part = arranged order p := by
  cases m with
  | method | call | construct => exact mem_parts_arrangedCall h
  | property | index =>
    simp only [arrangedMember, MemberType.parts, List.mem_cons, List.not_mem_nil, or_false] at h ⊢
    grind

theorem insertArranged_perm (place : SourceType → Nat) (type : SourceType)
    (types : List SourceType) : (insertArranged place type types).Perm (type :: types) := by
  induction types with
  | nil => exact List.Perm.refl _
  | cons first rest ih =>
    rw [insertArranged]
    split
    · exact List.Perm.refl _
    · exact (ih.cons first).trans (List.Perm.swap type first rest)

/-- Arranging changes nothing but the order. -/
theorem arrange_perm (order : List Text) (types : List SourceType) :
    (arrange order types).Perm types := by
  induction types with
  | nil => exact List.Perm.refl _
  | cons type rest ih => exact (insertArranged_perm _ type _).trans (ih.cons type)

/-- No other type is ranked as high as `undefined`. -/
theorem rank_lt_undefined (h : type.isUndefined = false) : type.rank < rank .undefined := by
  have hliterals (value : Literal) : firstLiterals.idxOf value ≤ firstLiterals.length :=
    List.idxOf_le_length
  have hlength : firstLiterals.length = 11 := by decide
  cases type with
  | undefined => exact absurd h Bool.noConfusion
  | literal value fresh => cases value <;> simp only [rank] <;> grind
  | _ => simp only [rank]; omega

theorem isUndefinedLast_insertArranged {place : SourceType → Nat} {types : List SourceType}
    (htype : type.isUndefined = false) (h : isUndefinedLast types = true) :
    isUndefinedLast (insertArranged place type types) = true := by
  induction types with
  | nil => rfl
  | cons first rest ih =>
    rw [insertArranged]
    split
    · exact isUndefinedLast_cons.mpr (.inr ⟨htype, h⟩)
    · next hbehind =>
      -- A type that is not put in front of `first` is not ranked lower, so `first` is not `undefined`.
      have hfirst : first.isUndefined = false := by
        by_contra hundefined
        rw [Bool.not_eq_false, isUndefined_iff] at hundefined
        rw [hundefined] at hbehind
        simp [rank_lt_undefined htype] at hbehind
      refine isUndefinedLast_cons.mpr (.inr ⟨hfirst, ?_⟩)
      obtain rfl | ⟨-, hrest⟩ := isUndefinedLast_cons.mp h
      · rfl
      · exact ih hrest

/-- **Arranging leaves `undefined` last.** -/
theorem isUndefinedLast_arrange {types : List SourceType} (h : isUndefinedLast types = true) :
    isUndefinedLast (arrange order types) = true := by
  induction types with
  | nil => rfl
  | cons type rest ih =>
    obtain rfl | ⟨htype, hrest⟩ := isUndefinedLast_cons.mp h
    · rfl
    · exact isUndefinedLast_insertArranged htype (ih hrest)

theorem isUndefined_arranged : (type.arranged order).isUndefined = type.isUndefined := by
  cases type <;> rfl

theorem isUndefinedLast_arrangedAll (types : List SourceType) :
    isUndefinedLast (arrangedAll order types) = isUndefinedLast types := by
  rw [arrangedAll_eq_map, isUndefinedLast, isUndefinedLast, ← List.map_dropLast, List.all_map]
  simp only [Function.comp_def, isUndefined_arranged]

theorem givesType_arrangedCall (c : CallType) : (arrangedCall order c).givesType = c.givesType := by
  cases c
  rfl

theorem givesTypes_arrangedMember (m : MemberType) :
    (arrangedMember order m).givesTypes = m.givesTypes := by
  cases m with
  | method | call | construct => exact givesType_arrangedCall _
  | property | index => rfl

/-- A type keeps its shape when it is arranged. -/
theorem hasBasicShape_arranged (h : type.hasBasicShape = true) :
    (type.arranged order).hasBasicShape = true := by
  cases type with
  | callable calls =>
    rw [arranged, arrangedCalls_eq_map, hasBasicShape, List.all_map]
    simp only [Function.comp_def, givesType_arrangedCall]
    exact h
  | record members =>
    rw [arranged, arrangedMembers_eq_map, hasBasicShape, List.all_map]
    simp only [Function.comp_def, givesTypes_arrangedMember]
    exact h
  | union members shown =>
    obtain ⟨hlength, hlast⟩ := Bool.and_eq_true_iff.mp h
    have hcount : (arrange order (arrangedAll order shown)).length = shown.length := by
      rw [(arrange_perm order _).length_eq, arrangedAll_eq_map, List.length_map]
    rw [arranged, hasBasicShape, hcount, hlength, Bool.true_and]
    exact isUndefinedLast_arrange ((isUndefinedLast_arrangedAll shown).trans hlast)
  | _ => exact h

theorem mem_parts_arranged {part : SourceType} (h : part ∈ (type.arranged order).parts) :
    part ∈ type.parts ∨ ∃ p ∈ type.parts, part = arranged order p := by
  cases type with
  | array =>
    rw [arranged, parts, List.mem_singleton] at h
    exact .inr ⟨_, List.mem_singleton_self _, h⟩
  | callable calls =>
    rw [arranged, arrangedCalls_eq_map, parts, List.flatMap_map, List.mem_flatMap] at h
    obtain ⟨call, hcall, h⟩ := h
    simp only [parts, List.mem_flatMap]
    obtain h | ⟨p, hp, rfl⟩ := mem_parts_arrangedCall h
    · exact .inl ⟨call, hcall, h⟩
    · exact .inr ⟨p, ⟨call, hcall, hp⟩, rfl⟩
  | record members =>
    rw [arranged, arrangedMembers_eq_map, parts, List.flatMap_map, List.mem_flatMap] at h
    obtain ⟨m, hm, h⟩ := h
    simp only [parts, List.mem_flatMap]
    obtain h | ⟨p, hp, rfl⟩ := mem_parts_arrangedMember h
    · exact .inl ⟨m, hm, h⟩
    · exact .inr ⟨p, ⟨m, hm, hp⟩, rfl⟩
  | union members shown =>
    rw [arranged, parts, (arrange_perm order _).mem_iff, arrangedAll_eq_map, List.mem_map] at h
    obtain ⟨p, hp, rfl⟩ := h
    exact .inr ⟨p, hp, rfl⟩
  | named | «alias» =>
    rw [arranged, parts, arrangedAll_eq_map, List.mem_map] at h
    obtain ⟨p, hp, rfl⟩ := h
    exact .inr ⟨p, hp, rfl⟩
  | _ => exact .inl h

/-- **A basic type stays one in any order of its unions.** -/
theorem isBasic_arranged (h : type.IsBasic) : (type.arranged order).IsBasic := by
  induction h with
  | intro shape parts ih =>
    refine .intro (hasBasicShape_arranged shape) fun part hpart => ?_
    obtain h | ⟨p, hp, rfl⟩ := mem_parts_arranged hpart
    · exact parts part h
    · exact ih p hp

end SourceType

end Turnstile.Source
