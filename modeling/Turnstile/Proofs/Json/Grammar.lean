import Turnstile.Proofs.Json.Lexemes

/-! # The grammar of JSON

The texts that are JSON, with the tree that each of them stands for.

* **`Json.Derives`** is the grammar: one production for each constructor, for values, for elements with
  blanks around them, and for the lists inside of brackets and braces.
* **`Json.Derives.exists_kind`** and **`Json.Derives.kind_eq`** tell by its first unit which production
  a value is made by.
* **`Json.Derives.settled`** says that the grammar is unambiguous, for a part of a text in front of what
  may follow it (**`Json.Follows`**). It is put together from one lemma for each production;
  **`Json.Derives.tree_unique`** is the case of a whole text. -/

namespace Turnstile.Json

open Text

/-! ## Derivations -/

/-- The parts that a JSON text is made of. -/
inductive Part where
  | value
  | element
  | elements
  | member
  | members

/-- The values that are words. -/
def words : List (Text × Json) :=
  [("null", .null), ("true", .boolean true), ("false", .boolean false)]

/-- **The grammar of JSON**: a text is a part of a JSON text, and stands for a tree. A list of elements
stands for the array of them, a list of members for the object. -/
inductive Derives : Part → Text → Json → Prop where
  | word {t : Text} {j : Json} (known : (t, j) ∈ words) : Derives .value t j
  | number {t : Text} (numeral : IsNumeral t) : Derives .value t (.number (Numeral.number t))
  | string {t s : Text} (string : IsString t s) : Derives .value t (.text s)
  | emptyArray {t : Text} (space : IsSpace t) :
      Derives .value (unit '[' :: (t ++ [unit ']'])) (.array [])
  | array {t : Text} {es : List Json} (inside : Derives .elements t (.array es)) :
      Derives .value (unit '[' :: (t ++ [unit ']'])) (.array es)
  | emptyObject {t : Text} (space : IsSpace t) :
      Derives .value (unit '\x7b' :: (t ++ [unit '\x7d'])) (.object [])
  | object {t : Text} {ms : List (Text × Json)} (inside : Derives .members t (.object ms)) :
      Derives .value (unit '\x7b' :: (t ++ [unit '\x7d'])) (.object ms)
  /-- A value with blanks around it. -/
  | element {a b t : Text} {j : Json} (before : IsSpace a) (after : IsSpace b)
      (value : Derives .value t j) : Derives .element (a ++ (t ++ b)) j
  | lastElement {t : Text} {e : Json} (last : Derives .element t e) :
      Derives .elements t (.array [e])
  | moreElements {t t' : Text} {e : Json} {es : List Json} (first : Derives .element t e)
      (rest : Derives .elements t' (.array es)) :
      Derives .elements (t ++ unit ',' :: t') (.array (e :: es))
  /-- A key with blanks around it, a colon and an element. -/
  | member {a b written key t : Text} {e : Json} (before : IsSpace a) (after : IsSpace b)
      (string : IsString written key) (value : Derives .element t e) :
      Derives .member (a ++ (written ++ (b ++ unit ':' :: t))) (.object [(key, e)])
  | lastMember {t : Text} {m : Text × Json} (last : Derives .member t (.object [m])) :
      Derives .members t (.object [m])
  | moreMembers {t t' : Text} {m : Text × Json} {ms : List (Text × Json)}
      (first : Derives .member t (.object [m])) (rest : Derives .members t' (.object ms)) :
      Derives .members (t ++ unit ',' :: t') (.object (m :: ms))

variable {part : Part} {t t' a a' x x' : Text} {j j' : Json} {u : UInt16}

/-! ## What follows a part -/

/-- The units that may stand behind a part of a JSON text. -/
def stops : Part → List UInt16
  | .value => spaces ++ [unit ',', unit ']', unit '\x7d']
  | .element | .member => [unit ',', unit ']', unit '\x7d']
  | .elements | .members => [unit ']', unit '\x7d']

/-- **What may follow a part**: nothing, or one of its stops. -/
def Follows (part : Part) (x : Text) : Prop := ∀ u, x.head? = some u → u ∈ stops part

theorem follows_nil (part : Part) : Follows part [] := fun _ h => absurd h nofun

theorem follows_cons (h : u ∈ stops part) (x : Text) : Follows part (u :: x) := by
  intro v hv
  rwa [← Option.some.inj hv]

/-- A list ends where its last item does. -/
theorem Follows.element (h : Follows .elements x) : Follows .element x :=
  fun u hu => List.mem_cons_of_mem _ (h u hu)

theorem Follows.member (h : Follows .members x) : Follows .member x :=
  fun u hu => List.mem_cons_of_mem _ (h u hu)

/-- Blanks may come in between behind a value. -/
theorem Follows.value (h : Follows .element x) (ha : IsSpace a) : Follows .value (a ++ x) := by
  intro u hu
  cases a with
  | nil => exact List.mem_append_right _ (h u hu)
  | cons v a =>
    rw [← Option.some.inj hu]
    exact List.mem_append_left _ (ha v List.mem_cons_self)

/-- No stop is a unit of a numeral. -/
theorem not_isNumeralUnit_of_mem_stops (h : u ∈ stops .value) : ¬ IsNumeralUnit u := by
  have hall : (stops .value).all (fun u => !isDigit u && !("-+.eE" : Text).contains u) = true := by
    decide
  have hunit := List.all_eq_true.mp hall u h
  rw [Bool.and_eq_true, Bool.not_eq_true', Bool.not_eq_true'] at hunit
  rintro (hdigit | hother)
  · exact Bool.noConfusion (hunit.1.symm.trans hdigit)
  · rw [← List.contains_iff_mem, hunit.2] at hother
    exact Bool.noConfusion hother

/-- No stop behind an element is a blank, -/
theorem not_mem_spaces_of_closes (h : u ∈ stops .element) : u ∉ spaces := by
  have hall : (stops .element).all (fun u => !spaces.contains u) = true := by decide
  have hunit := List.all_eq_true.mp hall u h
  rw [Bool.not_eq_true'] at hunit
  intro hspace
  rw [← List.contains_iff_mem, hunit] at hspace
  exact Bool.noConfusion hspace

/-- so nothing that follows one starts with a blank. -/
theorem Follows.not_mem_spaces (h : Follows .element x) (hu : x.head? = some u) : u ∉ spaces :=
  not_mem_spaces_of_closes (h u hu)

/-- No comma follows a list, for then it would go on. -/
theorem Follows.ne_comma (h : Follows part x) (hpart : unit ',' ∉ stops part) :
    x ≠ unit ',' :: x' := by
  rintro rfl
  exact hpart (h _ rfl)

/-! ## Where a value starts -/

/-- What can be told of a value by its first unit. -/
inductive Kind where
  | null
  | boolean (b : Bool)
  | number
  | text
  | array
  | object
  deriving DecidableEq

/-- The kind of a tree. -/
def kind : Json → Kind
  | .null => .null
  | .boolean b => .boolean b
  | .number _ => .number
  | .text _ => .text
  | .array _ => .array
  | .object _ => .object

/-- The kind of the values that start with a unit. -/
def kindFrom (u : UInt16) : Kind :=
  if u = unit 'n' then .null
  else if u = unit 't' then .boolean true
  else if u = unit 'f' then .boolean false
  else if u = unit '"' then .text
  else if u = unit '[' then .array
  else if u = unit '\x7b' then .object
  else .number

theorem kindFrom_digit (h : isDigit u = true) : kindFrom u = .number := by
  have hne : ∀ v, isDigit v = false → u ≠ v := by
    rintro v hv rfl
    exact Bool.noConfusion (hv.symm.trans h)
  rw [kindFrom, if_neg (hne _ (by decide)), if_neg (hne _ (by decide)), if_neg (hne _ (by decide)),
    if_neg (hne _ (by decide)), if_neg (hne _ (by decide)), if_neg (hne _ (by decide))]

/-- The words, by their kinds. -/
theorem mem_words_iff :
    (t, j) ∈ words ↔ t = "null" ∧ j = .null ∨ t = "true" ∧ j = .boolean true
      ∨ t = "false" ∧ j = .boolean false := by
  simp only [words, List.mem_cons, Prod.mk.injEq, List.not_mem_nil, or_false]

/-- **The first unit of a value tells its kind**, and is no stop. -/
theorem Derives.exists_kind (h : Derives .value t j) :
    ∃ u rest, t = u :: rest ∧ kindFrom u = j.kind ∧ u ∉ stops .value := by
  cases h with
  | word known =>
    rcases mem_words_iff.mp known with ⟨rfl, rfl⟩ | ⟨rfl, rfl⟩ | ⟨rfl, rfl⟩
    · exact ⟨unit 'n', ofString "ull", rfl, rfl, by decide⟩
    · exact ⟨unit 't', ofString "rue", rfl, rfl, by decide⟩
    · exact ⟨unit 'f', ofString "alse", rfl, rfl, by decide⟩
  | number numeral =>
    obtain ⟨u, rest, rfl, rfl | hdigit⟩ := numeral.head
    · exact ⟨unit '-', rest, rfl, rfl, by decide⟩
    · refine ⟨u, rest, rfl, kindFrom_digit hdigit, fun hstop => ?_⟩
      exact not_isNumeralUnit_of_mem_stops hstop (Or.inl hdigit)
  | string string =>
    obtain ⟨body, -, -, rfl⟩ := string
    exact ⟨unit '"', body ++ [unit '"'], rfl, rfl, by decide⟩
  | emptyArray => exact ⟨unit '[', _, rfl, rfl, by decide⟩
  | array => exact ⟨unit '[', _, rfl, rfl, by decide⟩
  | emptyObject => exact ⟨unit '\x7b', _, rfl, rfl, by decide⟩
  | object => exact ⟨unit '\x7b', _, rfl, rfl, by decide⟩

/-- A value does not start with a blank. -/
theorem Derives.not_mem_spaces (h : Derives .value t j) (hu : (t ++ x).head? = some u) :
    u ∉ spaces := by
  obtain ⟨v, rest, rfl, -, hv⟩ := h.exists_kind
  rw [← Option.some.inj hu]
  exact fun hspace => hv (List.mem_append_left _ hspace)

/-- Two values at one place are of one kind. -/
theorem Derives.kind_eq (h : Derives .value t j) (h' : Derives .value t' j')
    (heq : t ++ x = t' ++ x') : j'.kind = j.kind := by
  obtain ⟨u, rest, rfl, hu, -⟩ := h.exists_kind
  obtain ⟨u', rest', rfl, hu', -⟩ := h'.exists_kind
  rw [List.cons_append, List.cons_append, List.cons.injEq] at heq
  rw [← hu, ← hu', heq.1]

/-- A part that holds a value starts with blanks and a unit that is no stop. -/
theorem Derives.exists_start (h : Derives part t j) (hpart : part ≠ .value) :
    ∃ a u rest, IsSpace a ∧ t = a ++ u :: rest ∧ u ∉ stops .value := by
  induction h with
  | @element a b t j before after value ih =>
    obtain ⟨u, rest, rfl, -, hu⟩ := value.exists_kind
    exact ⟨a, u, rest ++ b, before, rfl, hu⟩
  | lastElement _ ih => exact ih nofun
  | moreElements _ _ ih =>
    obtain ⟨a, u, rest, ha, rfl, hu⟩ := ih nofun
    exact ⟨a, u, _, ha, List.append_assoc _ _ _, hu⟩
  | @member a b written key t e before after string value =>
    obtain ⟨body, -, -, rfl⟩ := string
    exact ⟨a, unit '"', _, before, rfl, by decide⟩
  | lastMember _ ih => exact ih nofun
  | moreMembers _ _ ih =>
    obtain ⟨a, u, rest, ha, rfl, hu⟩ := ih nofun
    exact ⟨a, u, _, ha, List.append_assoc _ _ _, hu⟩
  | _ => exact absurd rfl hpart

/-- **A list with items is no blank** in front of a closing bracket. -/
theorem Derives.ne_space (h : Derives part t j) (hpart : part ≠ .value) (ha : IsSpace a)
    (hu : u ∈ stops .elements) : t ++ x ≠ a ++ u :: x' := by
  have helement : u ∈ stops .element := List.mem_cons_of_mem _ hu
  obtain ⟨a', v, rest, ha', rfl, hv⟩ := h.exists_start hpart
  intro heq
  rw [List.append_assoc, List.cons_append] at heq
  -- Behind the blanks the list goes on with a unit that is no stop, the bracket is one.
  have hfirst : ∀ w, (v :: (rest ++ x)).head? = some w → w ∉ spaces := by
    intro w hw hspace
    rw [← Option.some.inj hw] at hspace
    exact hv (List.mem_append_left _ hspace)
  have hclosing : ∀ w, (u :: x').head? = some w → w ∉ spaces := by
    intro w hw
    rw [← Option.some.inj hw]
    exact not_mem_spaces_of_closes helement
  obtain ⟨-, hbehind⟩ := append_inj_of_forall ha' ha hfirst hclosing heq
  rw [(List.cons.inj hbehind).1] at hv
  exact hv (List.mem_append_right _ helement)

/-! ## Values by their kinds -/

/-- A word has a kind of its own. -/
theorem not_mem_words (hnull : j.kind ≠ .null) (hboolean : ∀ b, j.kind ≠ .boolean b) :
    (t, j) ∉ words := by
  rw [mem_words_iff]
  rintro (⟨-, rfl⟩ | ⟨-, rfl⟩ | ⟨-, rfl⟩)
  · exact hnull rfl
  · exact hboolean true rfl
  · exact hboolean false rfl

/-- Words of one kind are the same. -/
theorem eq_of_mem_words (h : (t, j) ∈ words) (h' : Derives .value t' j') (hkind : j'.kind = j.kind) :
    t = t' ∧ j = j' := by
  cases h' with
  | word known =>
    rcases mem_words_iff.mp h with ⟨rfl, rfl⟩ | ⟨rfl, rfl⟩ | ⟨rfl, rfl⟩ <;>
      rcases mem_words_iff.mp known with ⟨rfl, rfl⟩ | ⟨rfl, rfl⟩ | ⟨rfl, rfl⟩ <;>
      first | exact ⟨rfl, rfl⟩ | exact absurd hkind (by decide)
  | _ => rcases mem_words_iff.mp h with ⟨-, rfl⟩ | ⟨-, rfl⟩ | ⟨-, rfl⟩ <;> exact absurd hkind nofun

theorem Derives.of_kind_number (h : Derives .value t j) (hkind : j.kind = .number) :
    IsNumeral t ∧ j = .number (Numeral.number t) := by
  cases h with
  | number numeral => exact ⟨numeral, rfl⟩
  | word known => exact absurd known (not_mem_words (by simp [hkind]) (by simp [hkind]))
  | _ => exact absurd hkind nofun

theorem Derives.of_kind_text (h : Derives .value t j) (hkind : j.kind = .text) :
    ∃ s, IsString t s ∧ j = .text s := by
  cases h with
  | string string => exact ⟨_, string, rfl⟩
  | word known => exact absurd known (not_mem_words (by simp [hkind]) (by simp [hkind]))
  | _ => exact absurd hkind nofun

/-- An array is empty, or its elements stand between its brackets. -/
theorem Derives.of_kind_array (h : Derives .value t j) (hkind : j.kind = .array) :
    ∃ inside, t = unit '[' :: (inside ++ [unit ']'])
      ∧ (IsSpace inside ∧ j = .array [] ∨ Derives .elements inside j) := by
  cases h with
  | emptyArray space => exact ⟨_, rfl, Or.inl ⟨space, rfl⟩⟩
  | array inside => exact ⟨_, rfl, Or.inr inside⟩
  | word known => exact absurd known (not_mem_words (by simp [hkind]) (by simp [hkind]))
  | _ => exact absurd hkind nofun

/-- An object is empty, or its members stand between its braces. -/
theorem Derives.of_kind_object (h : Derives .value t j) (hkind : j.kind = .object) :
    ∃ inside, t = unit '\x7b' :: (inside ++ [unit '\x7d'])
      ∧ (IsSpace inside ∧ j = .object [] ∨ Derives .members inside j) := by
  cases h with
  | emptyObject space => exact ⟨_, rfl, Or.inl ⟨space, rfl⟩⟩
  | object inside => exact ⟨_, rfl, Or.inr inside⟩
  | word known => exact absurd known (not_mem_words (by simp [hkind]) (by simp [hkind]))
  | _ => exact absurd hkind nofun

/-! ## The grammar is unambiguous -/

/-- **A part is settled** when it ends where it ends and stands for one tree, in front of anything that
may follow it. A whole text is a part in front of nothing, but only with more behind it does this
carry over from the parts of a part. -/
def IsSettled (part : Part) (t : Text) (j : Json) : Prop :=
  ∀ t' j' x x', Derives part t' j' → Follows part x → Follows part x' → t ++ x = t' ++ x' →
    t = t' ∧ j = j'

/-- Blanks end at a unit that is none. -/
theorem space_unique (hu : u ∉ spaces) (ha : IsSpace a) (ha' : IsSpace a')
    (heq : a ++ u :: x = a' ++ u :: x') : a = a' := by
  have hhead : ∀ y : Text, ∀ v, (u :: y).head? = some v → v ∉ spaces := by
    intro y v hv
    rwa [← Option.some.inj hv]
  exact (append_inj_of_forall ha ha' (hhead x) (hhead x') heq).1

/-! ### Values -/

theorem settled_word (known : (t, j) ∈ words) : IsSettled .value t j := by
  intro t' j' x x' h' _ _ heq
  exact eq_of_mem_words known h' ((Derives.word known).kind_eq h' heq)

theorem settled_number (numeral : IsNumeral t) :
    IsSettled .value t (.number (Numeral.number t)) := by
  intro t' j' x x' h' hx hx' heq
  obtain ⟨numeral', rfl⟩ := h'.of_kind_number ((Derives.number numeral).kind_eq h' heq)
  -- Both numerals go as far as there are units of a numeral.
  obtain ⟨rfl, -⟩ := append_inj_of_forall (fun _ hu => numeral.isNumeralUnit hu)
    (fun _ hu => numeral'.isNumeralUnit hu)
    (fun u hu => not_isNumeralUnit_of_mem_stops (hx u hu))
    (fun u hu => not_isNumeralUnit_of_mem_stops (hx' u hu)) heq
  exact ⟨rfl, rfl⟩

theorem settled_string {s : Text} (string : IsString t s) : IsSettled .value t (.text s) := by
  intro t' j' x x' h' _ _ heq
  obtain ⟨s', string', rfl⟩ := h'.of_kind_text ((Derives.string string).kind_eq h' heq)
  obtain ⟨rfl, rfl⟩ := string.unique string' heq
  exact ⟨rfl, rfl⟩

/-- What is inside of two brackets at one place, with the closing bracket behind it. -/
theorem inside_eq {opening closing : UInt16}
    (heq : opening :: (t ++ [closing]) ++ x = opening :: (t' ++ [closing]) ++ x') :
    t ++ closing :: x = t' ++ closing :: x' := by
  simpa using heq

/-- Inside of brackets, a closing bracket follows. -/
theorem IsSettled.inside {opening closing : UInt16} (hsettled : IsSettled part t j)
    (h' : Derives part t' j') (hclosing : closing ∈ stops part)
    (heq : opening :: (t ++ [closing]) ++ x = opening :: (t' ++ [closing]) ++ x') :
    t = t' ∧ j = j' :=
  hsettled _ _ _ _ h' (follows_cons hclosing _) (follows_cons hclosing _) (inside_eq heq)

theorem settled_emptyArray (space : IsSpace t) :
    IsSettled .value (unit '[' :: (t ++ [unit ']'])) (.array []) := by
  intro t' j' x x' h' _ _ heq
  obtain ⟨inside', rfl, ⟨space', rfl⟩ | hinside'⟩ :=
    h'.of_kind_array ((Derives.emptyArray space).kind_eq h' heq)
  · rw [space_unique (by decide) space space' (inside_eq heq)]
    exact ⟨rfl, rfl⟩
  · exact absurd (inside_eq heq).symm (hinside'.ne_space nofun space (by decide))

theorem settled_array {es : List Json} (inside : Derives .elements t (.array es))
    (hsettled : IsSettled .elements t (.array es)) :
    IsSettled .value (unit '[' :: (t ++ [unit ']'])) (.array es) := by
  intro t' j' x x' h' _ _ heq
  obtain ⟨inside', rfl, ⟨space', rfl⟩ | hinside'⟩ :=
    h'.of_kind_array ((Derives.array inside).kind_eq h' heq)
  · exact absurd (inside_eq heq) (inside.ne_space nofun space' (by decide))
  · obtain ⟨rfl, rfl⟩ := hsettled.inside hinside' (by decide) heq
    exact ⟨rfl, rfl⟩

theorem settled_emptyObject (space : IsSpace t) :
    IsSettled .value (unit '\x7b' :: (t ++ [unit '\x7d'])) (.object []) := by
  intro t' j' x x' h' _ _ heq
  obtain ⟨inside', rfl, ⟨space', rfl⟩ | hinside'⟩ :=
    h'.of_kind_object ((Derives.emptyObject space).kind_eq h' heq)
  · rw [space_unique (by decide) space space' (inside_eq heq)]
    exact ⟨rfl, rfl⟩
  · exact absurd (inside_eq heq).symm (hinside'.ne_space nofun space (by decide))

theorem settled_object {ms : List (Text × Json)} (inside : Derives .members t (.object ms))
    (hsettled : IsSettled .members t (.object ms)) :
    IsSettled .value (unit '\x7b' :: (t ++ [unit '\x7d'])) (.object ms) := by
  intro t' j' x x' h' _ _ heq
  obtain ⟨inside', rfl, ⟨space', rfl⟩ | hinside'⟩ :=
    h'.of_kind_object ((Derives.object inside).kind_eq h' heq)
  · exact absurd (inside_eq heq) (inside.ne_space nofun space' (by decide))
  · obtain ⟨rfl, rfl⟩ := hsettled.inside hinside' (by decide) heq
    exact ⟨rfl, rfl⟩

/-! ### Items -/

theorem settled_element {b : Text} (before : IsSpace a) (after : IsSpace b)
    (value : Derives .value t j) (hsettled : IsSettled .value t j) :
    IsSettled .element (a ++ (t ++ b)) j := by
  intro t' j' x x' h' hx hx' heq
  cases h' with
  | element before' after' value' =>
    simp only [List.append_assoc] at heq
    -- From left to right: the blanks in front, the value, and the blanks behind it.
    obtain ⟨rfl, hvalues⟩ := append_inj_of_forall before before'
      (fun _ hu => value.not_mem_spaces hu) (fun _ hu => value'.not_mem_spaces hu) heq
    obtain ⟨rfl, rfl⟩ := hsettled _ _ _ _ value' (hx.value after) (hx'.value after') hvalues
    obtain ⟨rfl, -⟩ := append_inj_of_forall after after' (fun _ hu => hx.not_mem_spaces hu)
      (fun _ hu => hx'.not_mem_spaces hu) (List.append_cancel_left hvalues)
    exact ⟨rfl, rfl⟩

theorem settled_member {b written key : Text} (before : IsSpace a) (after : IsSpace b)
    (string : IsString written key) (hsettled : IsSettled .element t j) :
    IsSettled .member (a ++ (written ++ (b ++ unit ':' :: t))) (.object [(key, j)]) := by
  intro t' j' x x' h' hx hx' heq
  cases h' with
  | member before' after' string' value' =>
    simp only [List.append_assoc, List.cons_append] at heq
    -- The same with the key in front: blanks, key, blanks up to the colon, and the element.
    obtain ⟨rfl, hkeys⟩ := append_inj_of_forall before before'
      (fun _ hu => string.not_mem_spaces hu) (fun _ hu => string'.not_mem_spaces hu) heq
    obtain ⟨rfl, rfl⟩ := string.unique string' hkeys
    have hcolons := List.append_cancel_left hkeys
    obtain rfl := space_unique (by decide) after after' hcolons
    have hvalues := (List.cons.inj (List.append_cancel_left hcolons)).2
    obtain ⟨rfl, rfl⟩ := hsettled _ _ _ _ value' hx hx' hvalues
    exact ⟨rfl, rfl⟩

/-! ### Lists -/

/-- Of two items with a comma behind them, both are the same, and so is what follows the comma. -/
theorem IsSettled.comma (hsettled : IsSettled part t j) (h' : Derives part t' j')
    (hcomma : unit ',' ∈ stops part) (heq : t ++ unit ',' :: x = t' ++ unit ',' :: x') :
    t = t' ∧ j = j' ∧ x = x' := by
  obtain ⟨rfl, rfl⟩ := hsettled _ _ _ _ h' (follows_cons hcomma _) (follows_cons hcomma _) heq
  exact ⟨rfl, rfl, (List.cons.inj (List.append_cancel_left heq)).2⟩

theorem settled_lastElement (hsettled : IsSettled .element t j) :
    IsSettled .elements t (.array [j]) := by
  intro t' j' x x' h' hx hx' heq
  cases h' with
  | lastElement last' =>
    obtain ⟨rfl, rfl⟩ := hsettled _ _ _ _ last' hx.element hx'.element heq
    exact ⟨rfl, rfl⟩
  | moreElements first' rest' =>
    -- The comma behind the other element would have to follow this list.
    rw [List.append_assoc] at heq
    obtain ⟨rfl, -⟩ := hsettled _ _ _ _ first' hx.element (follows_cons (by decide) _) heq
    exact absurd (List.append_cancel_left heq) (hx.ne_comma (by decide))

theorem settled_moreElements {es : List Json} (hfirst : IsSettled .element t j)
    (hrest : IsSettled .elements a (.array es)) :
    IsSettled .elements (t ++ unit ',' :: a) (.array (j :: es)) := by
  intro t' j' x x' h' hx hx' heq
  cases h' with
  | lastElement last' =>
    rw [List.append_assoc] at heq
    obtain ⟨rfl, -⟩ := hfirst _ _ _ _ last' (follows_cons (by decide) _) hx'.element heq
    exact absurd (List.append_cancel_left heq).symm (hx'.ne_comma (by decide))
  | moreElements first' rest' =>
    -- The first elements end at their commas; what is behind them is a list again.
    rw [List.append_assoc, List.append_assoc] at heq
    obtain ⟨rfl, rfl, hbehind⟩ := hfirst.comma first' (by decide) heq
    obtain ⟨rfl, hes⟩ := hrest _ _ _ _ rest' hx hx' hbehind
    rw [Json.array.inj hes]
    exact ⟨rfl, rfl⟩

theorem settled_lastMember {m : Text × Json} (hsettled : IsSettled .member t (.object [m])) :
    IsSettled .members t (.object [m]) := by
  intro t' j' x x' h' hx hx' heq
  cases h' with
  | lastMember last' => exact hsettled _ _ _ _ last' hx.member hx'.member heq
  | moreMembers first' rest' =>
    rw [List.append_assoc] at heq
    obtain ⟨rfl, -⟩ := hsettled _ _ _ _ first' hx.member (follows_cons (by decide) _) heq
    exact absurd (List.append_cancel_left heq) (hx.ne_comma (by decide))

theorem settled_moreMembers {m : Text × Json} {ms : List (Text × Json)}
    (hfirst : IsSettled .member t (.object [m])) (hrest : IsSettled .members a (.object ms)) :
    IsSettled .members (t ++ unit ',' :: a) (.object (m :: ms)) := by
  intro t' j' x x' h' hx hx' heq
  cases h' with
  | lastMember last' =>
    rw [List.append_assoc] at heq
    obtain ⟨rfl, -⟩ := hfirst _ _ _ _ last' (follows_cons (by decide) _) hx'.member heq
    exact absurd (List.append_cancel_left heq).symm (hx'.ne_comma (by decide))
  | moreMembers first' rest' =>
    rw [List.append_assoc, List.append_assoc] at heq
    obtain ⟨rfl, hm, hbehind⟩ := hfirst.comma first' (by decide) heq
    obtain ⟨rfl, hms⟩ := hrest _ _ _ _ rest' hx hx' hbehind
    rw [(List.cons.inj (Json.object.inj hm)).1, Json.object.inj hms]
    exact ⟨rfl, rfl⟩

/-! ### All of them -/

/-- **Every part of a JSON text is settled**, by induction on how it is made. -/
theorem Derives.settled (h : Derives part t j) : IsSettled part t j := by
  induction h with
  | word known => exact settled_word known
  | number numeral => exact settled_number numeral
  | string string => exact settled_string string
  | emptyArray space => exact settled_emptyArray space
  | array inside ih => exact settled_array inside ih
  | emptyObject space => exact settled_emptyObject space
  | object inside ih => exact settled_object inside ih
  | element before after value ih => exact settled_element before after value ih
  | lastElement _ ih => exact settled_lastElement ih
  | moreElements _ _ ihfirst ihrest => exact settled_moreElements ihfirst ihrest
  | member before after string _ ih => exact settled_member before after string ih
  | lastMember _ ih => exact settled_lastMember ih
  | moreMembers _ _ ihfirst ihrest => exact settled_moreMembers ihfirst ihrest

/-- **No text stands for two trees.** -/
theorem Derives.tree_unique (h : Derives part t j) (h' : Derives part t j') : j = j' :=
  (h.settled t j' [] [] h' (follows_nil part) (follows_nil part) rfl).2

end Turnstile.Json
