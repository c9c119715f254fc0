import Mathlib.Data.List.Nodup
import Turnstile.Proofs.Json.Rendering
import Turnstile.Proofs.Value.ReadingOrder
import Turnstile.Value.Display

/-! # Plain data as JSON

What is printed for plain data is a JSON text, and what this text stands for is the data again, as far
as JSON has a form for it.

* **`Value.IsPlain`** is the data: null, booleans, texts, integers of any size, numbers that are
  integers, what JSON has no form for, and arrays and records of these.
* **`Value.Becomes`** says which tree is the same as a value: integers of any size are their digits, and
  what has no form is null in an array and left out of a record.
* **`Value.IsPlain.hasOneTree`** says that there is one such tree at most.
* **`Value.IsPlain.hasTree`** finds it, and **`Value.display_plain`** says that the text
  printed stands for it and for no other. -/

namespace Turnstile.Value

variable {v : Value} {j j' e : Json} {key : Text} {elements : List (Option Value)}
  {members : List (Text × Value)} {m : Memory}

/-! ## Plain data -/

/-- What JSON has no form for. -/
def isFormless : Value → Bool
  | .undefined | .function _ | .symbol _ => true
  | _ => false

/-- **Plain data**, nested to any depth. -/
inductive IsPlain : Value → Prop where
  | null : IsPlain .null
  | boolean (b : Bool) : IsPlain (.boolean b)
  | number {n : Number} (integral : n.IsIntegral) : IsPlain (.number n)
  | integer (i : Int) : IsPlain (.integer i)
  | text (t : Text) : IsPlain (.text t)
  | undefined : IsPlain .undefined
  | function (conduct : Option (Conduct × Value)) : IsPlain (.function conduct)
  | symbol (description : Text) : IsPlain (.symbol description)
  | array {elements : List (Option Value)} (present : ∀ v, some v ∈ elements → IsPlain v) :
      IsPlain (.array elements)
  /-- No key is there twice, and no function is to make another value of the record. -/
  | record {members : List (Text × Value)} (distinct : (members.map Prod.fst).Nodup)
      (asItIs : ∀ conduct, (("toJSON" : Text), .function conduct) ∉ members)
      (inside : ∀ member ∈ members, IsPlain member.2) : IsPlain (.record members)

/-- Null, an array or a record. -/
def IsCompound : Value → Prop
  | .null | .array _ | .record _ => True
  | _ => False

/-! ## What becomes of a value -/

/-- **What becomes of a value** as a JSON tree. -/
inductive Becomes : Value → Json → Prop where
  | null : Becomes .null .null
  | boolean (b : Bool) : Becomes (.boolean b) (.boolean b)
  | number (n : Number) : Becomes (.number n) (.number n)
  | text (t : Text) : Becomes (.text t) (.text t)
  /-- An integer of any size is the text of its decimal digits. -/
  | integer (i : Int) : Becomes (.integer i) (.text (ToString.toString i))
  /-- An array has its elements at their places; null stands for what has no form or is not there. -/
  | array {elements : List (Option Value)} {es : List Json} (length : es.length = elements.length)
      (present : ∀ (i : Nat) (v : Value) (e : Json), elements[i]? = some (some v) →
        v.isFormless = false → es[i]? = some e → Becomes v e)
      (formless : ∀ (i : Nat) (v : Value), elements[i]? = some (some v) → v.isFormless = true →
        es[i]? = some .null)
      (absent : ∀ i : Nat, elements[i]? = some none → es[i]? = some .null) :
      Becomes (.array elements) (.array es)
  /-- A record has its members in reading order; what has no form is left out. -/
  | record {members : List (Text × Value)} {ms : List (Text × Json)}
      (order : IsReadingOrder ((members.filter fun member => !member.2.isFormless).map Prod.fst)
        (ms.map Prod.fst))
      (inside : ∀ key v e, (key, v) ∈ members → (key, e) ∈ ms → Becomes v e) :
      Becomes (.record members) (.object ms)

/-- Members with the same keys and the same trees under them are the same. -/
theorem eq_of_map_fst_eq {ms ms' : List (Text × Json)} (hkeys : ms.map Prod.fst = ms'.map Prod.fst)
    (htrees : ∀ key e e', (key, e) ∈ ms → (key, e') ∈ ms' → e = e') : ms = ms' := by
  induction ms generalizing ms' with
  | nil => exact (List.map_eq_nil_iff.mp hkeys.symm).symm
  | cons m ms ih =>
    cases ms' with
    | nil => exact absurd hkeys nofun
    | cons m' ms' =>
      obtain ⟨key, e⟩ := m
      obtain ⟨key', e'⟩ := m'
      rw [List.map_cons, List.map_cons, List.cons.injEq] at hkeys
      obtain ⟨rfl, hrest⟩ := hkeys
      rw [htrees key e e' List.mem_cons_self List.mem_cons_self, ih hrest fun key e e' he he' =>
        htrees key e e' (List.mem_cons_of_mem _ he) (List.mem_cons_of_mem _ he')]

/-- **One tree at most becomes of a value.** -/
def HasOneTree (v : Value) : Prop := ∀ j j', v.Becomes j → v.Becomes j' → j = j'

theorem hasOneTree_array (h : ∀ v, some v ∈ elements → v.HasOneTree) :
    (array elements).HasOneTree := by
  intro j j' hj hj'
  cases hj with
  | @array _ es length present formless absent =>
  cases hj' with
  | @array _ es' length' present' formless' absent' =>
  congr 1
  refine List.ext_getElem? fun i => ?_
  cases helement : elements[i]? with
  | none =>
    have hend : elements.length ≤ i := List.getElem?_eq_none_iff.mp helement
    rw [List.getElem?_eq_none (length ▸ hend), List.getElem?_eq_none (length' ▸ hend)]
  | some element =>
    cases element with
    | none => rw [absent i helement, absent' i helement]
    | some v =>
      -- Only an element with a form has a tree that is left to compare.
      cases hform : v.isFormless with
      | true => rw [formless i v helement hform, formless' i v helement hform]
      | false =>
        have hi : i < elements.length := (List.getElem?_eq_some_iff.mp helement).1
        have he : es[i]? = some es[i] := List.getElem?_eq_getElem (length ▸ hi)
        have he' : es'[i]? = some es'[i] := List.getElem?_eq_getElem (length' ▸ hi)
        rw [he, he', h v (List.mem_of_getElem? helement) _ _ (present i v _ helement hform he)
          (present' i v _ helement hform he')]

theorem hasOneTree_record (distinct : (members.map Prod.fst).Nodup)
    (h : ∀ member ∈ members, member.2.HasOneTree) : (record members).HasOneTree := by
  intro j j' hj hj'
  cases hj with
  | @record _ ms order inside =>
  cases hj' with
  | @record _ ms' order' inside' =>
  -- The keys and their order are settled by the record; then member goes by member.
  have hkeys : ms.map Prod.fst = ms'.map Prod.fst :=
    order.unique (distinct.sublist (List.filter_sublist.map _)) order'
  congr 1
  refine eq_of_map_fst_eq hkeys fun key e e' he he' => ?_
  -- The key is one of the record, and the member under it decides on the tree.
  obtain ⟨⟨_, v⟩, hv, rfl⟩ := List.mem_map.mp (order.perm.mem_iff.mp (List.mem_map_of_mem he))
  have hmember := List.mem_of_mem_filter hv
  exact h _ hmember e e' (inside _ v e hmember he) (inside' _ v e' hmember he')

/-- **One tree at most becomes of plain data.** -/
theorem IsPlain.hasOneTree (h : v.IsPlain) : v.HasOneTree := by
  induction h with
  | null | boolean | number | integer | text =>
    intro j j' hj hj'
    cases hj
    cases hj'
    rfl
  | undefined | function | symbol =>
    intro j j' hj
    cases hj
  | array _ ih => exact hasOneTree_array ih
  | record distinct _ _ ih => exact hasOneTree_record distinct ih

/-! ## The tree of a value -/

/-- The tree of a value, if it has one. -/
def tree? (v : Value) : Option Json := v.toJson.toOption.join

/-- The tree at the place of an array element. -/
def elementTree : Option Value → Json
  | none => .null
  | some v => v.tree?.getD .null

/-- The member of a tree for a member of a record, if it has a form. -/
def memberTree? (member : Text × Value) : Option (Text × Json) :=
  member.2.tree?.map fun e => (member.1, e)

theorem memberTree?_of_none {member : Text × Value} (h : member.2.tree? = none) :
    memberTree? member = none := by
  rw [memberTree?, h, Option.map_none]

theorem memberTree?_of_some {member : Text × Value} (h : member.2.tree? = some e) :
    memberTree? member = some (member.1, e) := by
  rw [memberTree?, h, Option.map_some]

/-- **A value has its tree**: nothing is thrown when it is made, there is none exactly for what has no
form, and a tree is what becomes of the value, and plain. -/
structure HasTree (v : Value) : Prop where
  made : v.toJson = .ok v.tree?
  none_iff : v.tree? = none ↔ v.isFormless = true
  becomes : ∀ j, v.tree? = some j → v.Becomes j ∧ j.IsPlain

/-- A value whose tree is known. -/
theorem HasTree.of_toJson (hj : v.toJson = .ok (some j)) (hform : v.isFormless = false)
    (hbecomes : v.Becomes j) (hplain : j.IsPlain) : v.HasTree := by
  have htree : v.tree? = some j := by
    rw [tree?, hj]
    rfl
  refine ⟨by rw [hj, htree], ?_, fun j' hj' => ?_⟩
  · rw [htree, hform]
    exact iff_of_false nofun Bool.false_ne_true
  · rw [htree] at hj'
    rw [← Option.some.inj hj']
    exact ⟨hbecomes, hplain⟩

/-- What has no form has no tree. -/
theorem HasTree.of_isFormless (hform : v.isFormless = true) : v.HasTree := by
  have hmade : v.toJson = .ok none := by
    cases v with
    | undefined | function | symbol => rfl
    | _ => exact absurd hform nofun
  have htree : v.tree? = none := by
    rw [tree?, hmade]
    rfl
  refine ⟨by rw [hmade, htree], iff_of_true htree hform, fun j hj => ?_⟩
  rw [htree] at hj
  cases hj

/-- What has a form has a tree. -/
theorem HasTree.exists_tree (h : v.HasTree) (hform : v.isFormless = false) :
    ∃ j, v.toJson = .ok (some j) ∧ v.tree? = some j ∧ v.Becomes j ∧ j.IsPlain := by
  cases htree : v.tree? with
  | none =>
    have hformless := h.none_iff.mp htree
    rw [hform] at hformless
    exact Bool.noConfusion hformless
  | some j =>
    obtain ⟨hbecomes, hplain⟩ := h.becomes j htree
    exact ⟨j, by rw [h.made, htree], rfl, hbecomes, hplain⟩

/-- The trees of elements are made one after the other, if nothing is thrown. -/
theorem elementTrees_eq (h : ∀ v, some v ∈ elements → v.HasTree) :
    jsonForm.elementTrees elements = .ok (elements.map elementTree) := by
  induction elements with
  | nil => rfl
  | cons element elements ih =>
    have hrest := ih fun v hv => h v (List.mem_cons_of_mem _ hv)
    cases element with
    | none =>
      rw [jsonForm.elementTrees, hrest]
      rfl
    | some v =>
      have hmade : v.jsonForm false = .ok v.tree? := (h v List.mem_cons_self).made
      rw [jsonForm.elementTrees, hmade, hrest]
      rfl

/-- The forms of members are those of their values. -/
theorem memberForms_eq (members : List (Text × Value)) :
    jsonForm.memberForms members = members.map fun member => (member.1, member.2.toJson) := by
  induction members with
  | nil => rfl
  | cons member members ih =>
    rw [jsonForm.memberForms, ih]
    rfl

theorem formed_memberForms (members : List (Text × Value)) :
    formed (jsonForm.memberForms members) = members.filterMap memberTree? := by
  rw [memberForms_eq, formed, List.filterMap_map]
  rfl

/-- Nothing is thrown where the members have their trees. -/
theorem firstThrown?_eq_none (h : ∀ member ∈ members, member.2.HasTree) :
    firstThrown? (readingOrder (jsonForm.memberForms members)) = none := by
  rw [firstThrown?, List.findSome?_eq_none_iff]
  intro form hform
  rw [(perm_readingOrder _).mem_iff, memberForms_eq] at hform
  obtain ⟨member, hmember, rfl⟩ := List.mem_map.mp hform
  simp only [(h member hmember).made]

/-- A record without a function to make another value of it has no form of its own. -/
theorem ownForm_eq_none (asItIs : ∀ conduct, (("toJSON" : Text), .function conduct) ∉ members) :
    jsonForm.ownForm members = none := by
  induction members with
  | nil => rfl
  | cons member members ih =>
    obtain ⟨key, v⟩ := member
    rw [jsonForm.ownForm]
    by_cases hkey : key = "toJSON"
    · rw [if_pos hkey]
      cases v with
      | function conduct => exact absurd (hkey ▸ List.mem_cons_self) (asItIs conduct)
      | _ => rfl
    · rw [if_neg hkey]
      exact ih fun conduct hmember => asItIs conduct (List.mem_cons_of_mem _ hmember)

/-- A member of the tree comes from a member of the record. -/
theorem mem_memberTrees_iff :
    (key, e) ∈ members.filterMap memberTree? ↔ ∃ v, (key, v) ∈ members ∧ v.tree? = some e := by
  rw [List.mem_filterMap]
  constructor
  · rintro ⟨⟨key', v⟩, hmember, htree⟩
    obtain ⟨e', he', hpair⟩ := Option.map_eq_some_iff.mp htree
    rw [Prod.mk.injEq] at hpair
    obtain ⟨rfl, rfl⟩ := hpair
    exact ⟨v, hmember, he'⟩
  · rintro ⟨v, hmember, htree⟩
    exact ⟨(key, v), hmember, memberTree?_of_some htree⟩

/-- The keys of the tree are those of the members that have a form. -/
theorem keys_memberTrees (h : ∀ member ∈ members, member.2.HasTree) :
    (members.filterMap memberTree?).map Prod.fst
      = (members.filter fun member => !member.2.isFormless).map Prod.fst := by
  induction members with
  | nil => rfl
  | cons member members ih =>
    have hrest := ih fun other hother => h other (List.mem_cons_of_mem _ hother)
    have hiff := (h member List.mem_cons_self).none_iff
    cases htree : member.2.tree? with
    | none =>
      have hformless : member.2.isFormless = true := hiff.mp htree
      rw [List.filterMap_cons_none (memberTree?_of_none htree), hrest,
        List.filter_cons_of_neg (by rw [hformless]; decide)]
    | some e =>
      have hform : ¬ member.2.isFormless = true := by
        rw [← hiff, htree]
        exact nofun
      rw [List.filterMap_cons_some (memberTree?_of_some htree),
        List.filter_cons_of_pos (by rw [Bool.eq_false_of_not_eq_true hform]; rfl), List.map_cons,
        List.map_cons, hrest]

/-- The number of a tree is the number itself, when it is an integer. -/
theorem numberJson_of_isIntegral {n : Number} (h : n.IsIntegral) : numberJson n = .number n := by
  obtain ⟨i, hi, -⟩ := h
  cases n with
  | finite => rfl
  | _ => exact absurd hi nofun

/-- The tree at the place of an element is plain, whether the element has a form or not. -/
theorem isPlain_elementTree {element : Option Value} (h : ∀ v, element = some v → v.HasTree) :
    (elementTree element).IsPlain := by
  cases element with
  | none => exact .null
  | some v =>
    rw [elementTree]
    cases hj : v.tree? with
    | none => exact .null
    | some j => exact ((h v rfl).becomes j hj).2

theorem hasTree_array (h : ∀ v, some v ∈ elements → v.HasTree) : (array elements).HasTree := by
  have hmade : (array elements).toJson = .ok (some (.array (elements.map elementTree))) := by
    rw [toJson, jsonForm, elementTrees_eq h]
    rfl
  refine .of_toJson hmade rfl ?_ ?_
  · refine .array (List.length_map _) ?_ ?_ ?_
    · intro i v e hv hform he
      obtain ⟨j, -, hj, hbecomes, -⟩ := (h v (List.mem_of_getElem? hv)).exists_tree hform
      rw [List.getElem?_map, hv, Option.map_some, elementTree, hj, Option.getD_some] at he
      rwa [← Option.some.inj he]
    · intro i v hv hformless
      have hnone := (h v (List.mem_of_getElem? hv)).none_iff.mpr hformless
      rw [List.getElem?_map, hv, Option.map_some, elementTree, hnone, Option.getD_none]
    · intro i hi
      rw [List.getElem?_map, hi, Option.map_some, elementTree]
  · refine .array fun e he => ?_
    obtain ⟨element, helement, rfl⟩ := List.mem_map.mp he
    exact isPlain_elementTree fun v hv => h v (hv ▸ helement)

theorem hasTree_record (distinct : (members.map Prod.fst).Nodup)
    (asItIs : ∀ conduct, (("toJSON" : Text), .function conduct) ∉ members)
    (h : ∀ member ∈ members, member.2.HasTree) : (record members).HasTree := by
  have hmade : (record members).toJson
      = .ok (some (.object (readingOrder (members.filterMap memberTree?)))) := by
    rw [toJson, jsonForm, if_neg Bool.false_ne_true, ownForm_eq_none asItIs, objectOf,
      firstThrown?_eq_none h, formed_memberForms]
  -- A member of the tree is found among those of the record, wherever it was put.
  have hmem : ∀ key e, (key, e) ∈ readingOrder (members.filterMap memberTree?) →
      ∃ v, (key, v) ∈ members ∧ v.Becomes e ∧ e.IsPlain := by
    intro key e he
    obtain ⟨v, hv, hj⟩ := mem_memberTrees_iff.mp ((perm_readingOrder _).mem_iff.mp he)
    exact ⟨v, hv, (h (key, v) hv).becomes e hj⟩
  refine .of_toJson hmade rfl ?_ ?_
  · refine .record ?_ ?_
    · rw [← keys_memberTrees h]
      apply isReadingOrder_readingOrder
      rw [keys_memberTrees h]
      exact distinct.sublist (List.filter_sublist.map _)
    · intro key v e hv he
      obtain ⟨v', hv', hbecomes, -⟩ := hmem key e he
      -- The key stands for one member only.
      have hsame : (key, v) = (key, v') := List.inj_on_of_nodup_map distinct hv hv' rfl
      rwa [(Prod.mk.inj hsame).2]
  · refine .object ?_
    rintro ⟨key, e⟩ he
    obtain ⟨v, -, -, hplain⟩ := hmem key e he
    exact hplain

/-- **Plain data has its tree.** -/
theorem IsPlain.hasTree (h : v.IsPlain) : v.HasTree := by
  induction h with
  | null => exact .of_toJson rfl rfl .null .null
  | boolean b => exact .of_toJson rfl rfl (.boolean b) (.boolean b)
  | @number n integral =>
    refine .of_toJson ?_ rfl (.number n) (.number integral)
    rw [toJson, jsonForm, numberJson_of_isIntegral integral]
  | integer i =>
    refine .of_toJson rfl rfl ?_ (.text (Text.ofInt i))
    rw [← Text.ofString_toString_int]
    exact .integer i
  | text t => exact .of_toJson rfl rfl (.text t) (.text t)
  | undefined | function | symbol => exact .of_isFormless rfl
  | array _ ih => exact hasTree_array ih
  | record distinct asItIs _ ih => exact hasTree_record distinct asItIs ih

/-! ## What is printed -/

/-- What is printed for null, an array or a record is the text of its tree. -/
theorem display_of_isCompound (hv : v.IsCompound) (hj : v.toJson = .ok (some j)) :
    v.display m = .ok j.render := by
  cases v with
  | null | array | record => simp only [display, hj]
  | _ => exact absurd hv nofun

/-- **What is printed for plain data is a JSON text**: it stands for one tree, and that is the one
tree that becomes of the data. -/
theorem display_plain (m : Memory) (hplain : v.IsPlain) (hcompound : v.IsCompound) :
    ∃ t j, v.display m = .ok t ∧ Json.Derives .element t j
      ∧ (∀ j', Json.Derives .element t j' → j' = j)
      ∧ v.Becomes j ∧ ∀ j', v.Becomes j' → j' = j := by
  have hform : v.isFormless = false := by
    cases v with
    | null | array | record => rfl
    | _ => exact absurd hcompound nofun
  obtain ⟨j, hj, -, hbecomes, hj'⟩ := hplain.hasTree.exists_tree hform
  have hderives : Json.Derives .element j.render j := (Json.derives_render hj').asElement
  exact ⟨j.render, j, display_of_isCompound hcompound hj, hderives,
    fun j' h' => h'.tree_unique hderives, hbecomes,
    fun j' h' => hplain.hasOneTree j' j h' hbecomes⟩

/-- A nested value with all there is to leave out, to spell out and to put into order. -/
theorem display_plain_nested :
    let v : Value := .array [some (.integer (-12)), some (.number (.ofInt 7)), none, some .undefined,
      some (.record
        [("b", .text [0xD800, 0x22]), ("10", .null), ("f", .function none), ("2", .boolean true)])]
    v.IsPlain ∧ v.IsCompound
      ∧ ∃ t j, v.display Memory.initial = .ok t ∧ Json.Derives .element t j
        ∧ (∀ j', Json.Derives .element t j' → j' = j)
        ∧ v.Becomes j ∧ ∀ j', v.Becomes j' → j' = j := by
  intro v
  have hrecord : IsPlain (.record
      [("b", .text [0xD800, 0x22]), ("10", .null), ("f", .function none), ("2", .boolean true)]) := by
    refine .record (by decide) (by simp +decide) ?_
    simp only [List.mem_cons, List.not_mem_nil, or_false, forall_eq_or_imp, forall_eq]
    exact ⟨.text _, .null, .function _, .boolean _⟩
  have hplain : v.IsPlain := by
    refine .array fun w hw => ?_
    simp only [List.mem_cons, List.not_mem_nil, or_false, Option.some.injEq, reduceCtorEq,
      false_or] at hw
    rcases hw with hw | hw | hw | hw <;> rw [hw]
    · exact .integer _
    · exact .number (Number.isIntegral_iff.mpr ⟨7, by decide, rfl⟩)
    · exact .undefined
    · exact hrecord
  exact ⟨hplain, trivial, display_plain _ hplain trivial⟩

end Turnstile.Value
