import Turnstile.Proofs.Source.ElementTypes
import Turnstile.Proofs.Source.Lines

/-! # Plain types

Types made of keywords, of what holds numbers by their places, of arrays and of `undefined`, to any
depth. Their texts are lines of lexemes.

* **`PlainType.type`** is the type, and **`PlainType.lexemes`** are what it is written by.
* **`PlainType.type_normal`**: a plain type is one that is written as it stands. A union with
  `undefined` may not show in its text, because it was there before or adds nothing.
* **`PlainType.arranged_type`**: the order in which types came up does not matter to a plain type.
* **`PlainType.cut_type`**: the text of a plain type is cut into its lexemes. -/

namespace Turnstile.Source

namespace SourceType

/-! ## Arrays or `undefined` -/

section

variable (isReadonly : Bool) (element : SourceType)

theorem key_array_ne {word : Text} (hword : (0x5D : UInt16) ∉ word) :
    ((array isReadonly element).key == word) = false := by
  refine beq_false_of_ne ?_
  rintro rfl
  rw [key, textOf] at hword
  exact hword (List.mem_append_right _ (by decide))

/-- An array has the key of no word. -/
theorem isLike_array : isLike (array isReadonly element) .unknown = false
    ∧ isLike (array isReadonly element) .never = false
    ∧ (key .undefined == (array isReadonly element).key) = false :=
  ⟨key_array_ne _ _ (by decide), key_array_ne _ _ (by decide),
    (Bool.beq_comm ..).trans (key_array_ne _ _ (by decide))⟩

/-- **What is made of an array and `undefined`**, however often `undefined` was given. Where it is a
value of every type, it adds nothing. -/
theorem unionOf_array (types : List SourceType) {more : List SourceType}
    (hall : types.flatMap alternatives = array isReadonly element :: .undefined :: more)
    (hmore : more = [] ∨ more = [.undefined])
    (hnames : types.flatMap namedUnions = []) (strict : Bool) :
    unionOf strict types
      = if strict then
          .union [array isReadonly element, .undefined] [array isReadonly element, .undefined]
        else array isReadonly element := by
  obtain ⟨hunknown, hnever, hundefined⟩ := isLike_array isReadonly element
  have hwords : isLike .undefined .unknown = false ∧ isLike .undefined .never = false := ⟨rfl, rfl⟩
  have hrank : (array isReadonly element).rank ≤ rank .undefined := (rank_lt_undefined rfl).le
  have hdistinct : distinct (array isReadonly element :: .undefined :: more)
      = [array isReadonly element, .undefined] := by
    rcases hmore with rfl | rfl <;>
      simp [distinct, distinctKeyed, isFreshLiteral, bne, hundefined]
  rcases hmore with rfl | rfl <;> cases strict <;>
    simp [unionOf, hall, isAny, hunknown, hnever, hwords, hdistinct, isNothing, ranked,
      insertRanked, hrank, isCovered, joinTruths, isTruth, joinEnumerations, shownBy, hnames,
      shownBy.distinctNames]

end

end SourceType

/-! ## Plain types -/

/-- The keywords of plain types. -/
inductive Keyword where
  | number
  | integer
  | string
  | boolean
  | void
  | undefined
  | unknown
  | any
  deriving DecidableEq

/-- The type that a keyword stands for. -/
def Keyword.type : Keyword → SourceType
  | .number => .number
  | .integer => .integer
  | .string => .string
  | .boolean => .boolean
  | .void => .void
  | .undefined => .undefined
  | .unknown => .unknown
  | .any => .any

/-- **Plain types**: keywords, what holds numbers by their places, arrays of plain types, and a plain
type or `undefined`. -/
inductive PlainType where
  | keyword (word : Keyword)
  | arrayLike
  | int32Array (mayBeShared : Bool)
  | array (isReadonly : Bool) (element : PlainType)
  | orUndefined (type : PlainType)

namespace PlainType

/-- The name of the buffers that an array of numbers of a fixed kind stands on. -/
def bufferName : (mayBeShared : Bool) → Text
  | false => "ArrayBuffer"
  | true => "ArrayBufferLike"

/-- The buffers that an array of numbers of a fixed kind stands on. -/
def bufferType : (mayBeShared : Bool) → SourceType
  | false => .standard "ArrayBuffer" []
  | true =>
    .alias .always "ArrayBufferLike" []
      (.unionOf true [.standard "ArrayBuffer" [], .standard "SharedArrayBuffer" []])

/-- **What a plain type is**; without `strict`, `undefined` is a value of every type. -/
def type (strict : Bool) : PlainType → SourceType
  | .keyword word => word.type
  | .arrayLike => .standard "ArrayLike" [.number]
  | .int32Array mayBeShared => .standard "Int32Array" [bufferType mayBeShared]
  | .array isReadonly element => .array isReadonly (element.type strict)
  | .orUndefined type => .unionOf strict [type.type strict, .undefined]

/-- Whether a plain type becomes another one with `undefined`. -/
def takesUndefined : PlainType → Bool
  | .keyword .undefined => false
  | .keyword .unknown => false
  | .keyword .any => false
  | .orUndefined _ => false
  | _ => true

/-- Whether a plain type is written as it stands. -/
def isNormal (strict : Bool) : PlainType → Bool
  | .array _ element => element.isNormal strict
  | .orUndefined type => strict && type.takesUndefined && type.isNormal strict
  | _ => true

/-- A plain type without what its text does not show. -/
def normal (strict : Bool) : PlainType → PlainType
  | .array isReadonly element => .array isReadonly (element.normal strict)
  | .orUndefined type =>
    if strict && (type.normal strict).takesUndefined then .orUndefined (type.normal strict)
    else type.normal strict
  | type => type

variable {strict : Bool} {t : PlainType}

theorem isNormal_normal (t : PlainType) : (t.normal strict).isNormal strict = true := by
  induction t with
  | keyword | arrayLike | int32Array => rfl
  | array isReadonly element ih => exact ih
  | orUndefined type ih =>
    rw [normal]
    split
    · exact Bool.and_eq_true_iff.mpr ⟨‹_›, ih⟩
    · exact ih

/-- What a plain type with `undefined` is. -/
theorem type_orUndefined (h : t.isNormal strict = true) :
    (orUndefined t).type strict
      = if strict && t.takesUndefined then
          .union [t.type strict, .undefined] [t.type strict, .undefined]
        else t.type strict := by
  cases t with
  | keyword word => cases word <;> cases strict <;> rfl
  | arrayLike => cases strict <;> rfl
  | int32Array mayBeShared => cases strict <;> cases mayBeShared <;> rfl
  | array isReadonly element =>
    have hstrict : (strict && (array isReadonly element).takesUndefined) = strict :=
      Bool.and_true strict
    rw [hstrict]
    exact SourceType.unionOf_array isReadonly (element.type strict)
      [.array isReadonly (element.type strict), .undefined] rfl (.inl rfl) rfl strict
  | orUndefined type =>
    obtain ⟨hstrict, hnormal⟩ := Bool.and_eq_true_iff.mp h
    obtain ⟨rfl, htakes⟩ := Bool.and_eq_true_iff.mp hstrict
    cases type with
    | keyword word => cases word <;> rfl
    | arrayLike => rfl
    | int32Array mayBeShared => cases mayBeShared <;> rfl
    | array isReadonly element =>
      have hinner : (orUndefined (array isReadonly element)).type true = _ :=
        SourceType.unionOf_array isReadonly (element.type true) [_, .undefined] rfl (.inl rfl) rfl true
      rw [type, hinner]
      exact SourceType.unionOf_array isReadonly (element.type true) [_, .undefined] rfl
        (.inr rfl) rfl true
    | orUndefined => exact absurd htakes nofun

/-- A plain type with `undefined` that is written as it stands. -/
theorem type_orUndefined_of_isNormal (h : (orUndefined t).isNormal strict = true) :
    (orUndefined t).type strict = .union [t.type strict, .undefined] [t.type strict, .undefined] := by
  obtain ⟨htakes, hnormal⟩ := Bool.and_eq_true_iff.mp h
  rw [type_orUndefined hnormal, if_pos htakes]

/-- **Each plain type is one that is written as it stands.** -/
theorem type_normal (t : PlainType) : (t.normal strict).type strict = t.type strict := by
  induction t with
  | keyword | arrayLike | int32Array => rfl
  | array isReadonly element ih => exact congrArg (SourceType.array isReadonly) ih
  | orUndefined u ih =>
    have hsame : (orUndefined (u.normal strict)).type strict = (orUndefined u).type strict :=
      congrArg (fun type => SourceType.unionOf strict [type, .undefined]) ih
    rw [normal]
    split
    · exact hsame
    · rw [← hsame, type_orUndefined (isNormal_normal u), if_neg ‹_›]

/-! ## How plain types are written -/

/-- How tightly the text of a plain type holds together. -/
def tightness : PlainType → Nat
  | .array true _ => 3
  | .orUndefined _ => 1
  | _ => 4

theorem tightness_le (t : PlainType) : t.tightness ≤ 4 := by
  cases t with
  | keyword | arrayLike | int32Array => exact le_refl 4
  | array isReadonly element =>
    cases isReadonly with
    | true => exact (by decide : 3 ≤ 4)
    | false => exact le_refl 4
  | orUndefined u => exact (by decide : 1 ≤ 4)

theorem tightness_type (h : t.isNormal strict = true) : (t.type strict).tightness = t.tightness := by
  cases t with
  | keyword word => cases word <;> rfl
  | arrayLike | int32Array => rfl
  | array isReadonly element => cases isReadonly <;> rfl
  | orUndefined u =>
    rw [type_orUndefined_of_isNormal h]
    rfl

/-- Beside `undefined` nothing is written with parentheses. -/
theorem tightness_of_takesUndefined (h : t.takesUndefined = true) : ¬ t.tightness < 3 := by
  cases t with
  | keyword | arrayLike | int32Array => exact (by decide : ¬ 4 < 3)
  | array isReadonly element =>
    cases isReadonly with
    | false => exact (by decide : ¬ 4 < 3)
    | true => exact (by decide : ¬ 3 < 3)
  | orUndefined u => exact absurd h nofun

theorem isUndefined_of_takesUndefined (h : t.takesUndefined = true) :
    (t.type strict).isUndefined = false := by
  cases t with
  | keyword word => cases word <;> first | rfl | exact absurd h nofun
  | arrayLike | int32Array | array => rfl
  | orUndefined u => exact absurd h nofun

/-- The order in which types came up does not matter to a plain type. -/
theorem arranged_type (order : List Text) (h : t.isNormal strict = true) :
    (t.type strict).arranged order = t.type strict := by
  induction t with
  | keyword word => cases word <;> rfl
  | arrayLike => rfl
  | int32Array mayBeShared => cases mayBeShared <;> rfl
  | array isReadonly element ih => exact congrArg (SourceType.array isReadonly) (ih h)
  | orUndefined u ih =>
    obtain ⟨htakes, hnormal⟩ := Bool.and_eq_true_iff.mp h
    have hfirst : (u.type strict).rank < SourceType.rank .undefined :=
      SourceType.rank_lt_undefined (isUndefined_of_takesUndefined (Bool.and_eq_true_iff.mp htakes).2)
    rw [type_orUndefined_of_isNormal h, SourceType.arranged, SourceType.arrangedAll, ih hnormal]
    refine congrArg (SourceType.union _) ?_
    exact if_pos (Bool.or_eq_true_iff.mpr (.inl (decide_eq_true hfirst)))

/-- The keyword as a text. -/
def wordOf (word : Keyword) : Text := word.type.toText

/-- The lexemes of the element of an array, in parentheses if it does not hold together by itself. -/
def enclosed (tightness : Nat) (lexemes : List Lexeme) : List Lexeme :=
  if tightness < 4 then .mark "(" :: (lexemes ++ [.mark ")"]) else lexemes

/-- **The lexemes that a plain type is written by.** -/
def lexemes : PlainType → List Lexeme
  | .keyword word => [.word (wordOf word)]
  | .arrayLike => [.word "ArrayLike", .mark "<", .word "number", .mark ">"]
  | .int32Array mayBeShared =>
    [.word "Int32Array", .mark "<", .word (bufferName mayBeShared), .mark ">"]
  | .array false element => enclosed element.tightness element.lexemes ++ [.mark "[", .mark "]"]
  | .array true element =>
    .word "readonly" :: (enclosed element.tightness element.lexemes ++ [.mark "[", .mark "]"])
  | .orUndefined type => type.lexemes ++ [.mark "|", .word "undefined"]

theorem orUndefined_toText (h : (orUndefined t).isNormal strict = true) :
    ((orUndefined t).type strict).toText = (t.type strict).toText ++ (" | undefined" : Text) := by
  obtain ⟨htakes, hnormal⟩ := Bool.and_eq_true_iff.mp h
  have htight := tightness_of_takesUndefined (Bool.and_eq_true_iff.mp htakes).2
  rw [← tightness_type hnormal] at htight
  rw [type_orUndefined_of_isNormal h, SourceType.toText, SourceType.textOf, if_neg Bool.false_ne_true,
    SourceType.textsOf_eq_map, List.map_cons, SourceType.enclose, if_neg htight, List.map_cons,
    List.map_nil, Text.join_cons_cons, List.append_assoc]
  rfl

theorem cut_type (h : t.isNormal strict = true) {last rest : Text} {behind : List Lexeme}
    (hends : EndsName rest) (hrest : Cut last rest behind) :
    Cut last ((t.type strict).toText ++ rest) (t.lexemes ++ behind) := by
  induction t generalizing rest behind with
  | keyword word =>
    have hname : isName (wordOf word) = true := by cases word <;> decide
    exact .name _ hname hends hrest
  | arrayLike =>
    have hinside : Cut last (("number>" : Text) ++ rest) (.word "number" :: .mark ">" :: behind) :=
      .name "number" (by decide) (endsName_cons (by decide) _) (.plainMark (by decide) hrest)
    have hopen : Cut last (("<number>" : Text) ++ rest)
        (.mark "<" :: .word "number" :: .mark ">" :: behind) :=
      .cons (fun _ => rfl) rfl (Nat.lt_succ_self _) hinside
    exact .name "ArrayLike" (by decide) (endsName_cons (by decide) _) hopen
  | int32Array mayBeShared =>
    have hname : isName (bufferName mayBeShared) = true := by cases mayBeShared <;> decide
    have hinside : Cut last (bufferName mayBeShared ++ ((">" : Text) ++ rest))
        (.word (bufferName mayBeShared) :: .mark ">" :: behind) :=
      .name _ hname (endsName_cons (by decide) _) (.plainMark (by decide) hrest)
    have hopen : Cut last (("<" : Text) ++ (bufferName mayBeShared ++ ((">" : Text) ++ rest)))
        (.mark "<" :: .word (bufferName mayBeShared) :: .mark ">" :: behind) := by
      cases mayBeShared <;> exact .cons (fun _ => rfl) rfl (Nat.lt_succ_self _) hinside
    have htext : ((int32Array mayBeShared).type strict).toText ++ rest
        = ("Int32Array" : Text)
        ++ (("<" : Text) ++ (bufferName mayBeShared ++ ((">" : Text) ++ rest))) := by
      cases mayBeShared <;> rfl
    rw [htext]
    exact .name "Int32Array" (by decide) (endsName_cons (by decide) _) hopen
  | array isReadonly element ih =>
    have htight : (element.type strict).tightness = element.tightness := tightness_type h
    have hbrackets : Cut last (("[]" : Text) ++ rest) (.mark "[" :: .mark "]" :: behind) :=
      .plainMark (by decide) (.plainMark (by decide) hrest)
    have helement :
        Cut last (SourceType.enclose 4 (element.type strict).tightness (element.type strict).toText
            ++ (("[]" : Text) ++ rest))
          (enclosed element.tightness element.lexemes ++ (.mark "[" :: .mark "]" :: behind)) := by
      rw [SourceType.enclose, htight, enclosed]
      split
      · have hclosed : Cut last ((")" : Text) ++ (("[]" : Text) ++ rest))
          (.mark ")" :: .mark "[" :: .mark "]" :: behind) :=
          .plainMark (by decide) hbrackets
        rw [List.append_assoc, List.append_assoc, List.cons_append, List.append_assoc]
        exact .plainMark (by decide) (ih h (endsName_cons (by decide) _) hclosed)
      · exact ih h (endsName_cons (by decide) _) hbrackets
    rw [type, SourceType.array_toText, List.append_assoc, List.append_assoc]
    cases isReadonly with
    | false =>
      rw [lexemes, List.append_assoc]
      exact helement
    | true =>
      rw [lexemes, List.cons_append, List.append_assoc]
      exact .name "readonly" (by decide) (endsName_cons (by decide) _) (.blank helement)
  | orUndefined u ih =>
    have hnormal := (Bool.and_eq_true_iff.mp h).2
    rw [orUndefined_toText h, lexemes, List.append_assoc, List.append_assoc]
    have hlast : Cut last (("undefined" : Text) ++ rest) (.word "undefined" :: behind) :=
      .name "undefined" (by decide) hends hrest
    exact ih hnormal (endsName_cons (by decide) _) (.blank (.inBlanks (by decide) (.blank hlast)))

end PlainType

end Turnstile.Source
