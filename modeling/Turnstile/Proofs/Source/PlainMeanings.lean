import Turnstile.Proofs.Source.HandedNames
import Turnstile.Proofs.Source.PlainTypesRead
import Turnstile.Proofs.Source.StandardTypes
import Turnstile.Source.Walker

/-! # What plain types mean

Where nothing around a place is a type, names among types stand for what is always there.

* **`Scope.IsClear`**: nothing that can be used at a place is a type of its own.
* **`Scope.exists_find`**: from such a place, a name is found among what is always there.
* **`Writes.type_eq`**: a tree that says a plain type means that type. -/

namespace Turnstile.Source

/-! ## Names among types -/

/-- Sources that hold nothing but functions. -/
def Program.HoldsFunctions (p : Program) : Prop :=
  ∀ item ∈ p.sources, ∀ s ∈ item.2.statements, s.isFunction = true

/-- A frame declares no type; what it binds among types is no ordinary name. -/
def Frame.IsClear : Frame → Prop
  | .block declared => ∀ item ∈ declared, item.2.isType = false
  | .types bound => ∀ b ∈ bound, b.name = "this"
  | .space _ => False

/-- **Nothing that can be used at a place is a type of its own.** -/
structure Scope.IsClear (s : Scope) : Prop where
  program : s.program.HoldsFunctions
  frames : ∀ frame ∈ s.frames, frame.IsClear

theorem Program.isType_of_mem_declarationsIn {p : Program} (h : p.HoldsFunctions) (path name : Text) :
    ∀ d ∈ p.declarationsIn path [] name, d.isType = false := by
  intro d hd
  rw [declarationsIn] at hd
  split at hd
  · next source hsource =>
    obtain ⟨statement, hstatement, hd⟩ := List.mem_flatMap.mp hd
    have hfunction := h _ (mem_of_lookup_eq_some hsource) statement hstatement
    cases statement with
    | function modifiers tree =>
      obtain ⟨item, hitem, rfl⟩ := List.mem_map.mp hd
      obtain rfl := List.mem_singleton.mp (List.mem_of_mem_filter hitem)
      rfl
    | _ => exact absurd hfunction Bool.false_ne_true
  · exact absurd hd List.not_mem_nil

namespace Scope

variable {s : Scope} {name : Text}

theorem ofDeclarations?_eq_none {all : List Declaration} (h : ∀ d ∈ all, d.isType = false) :
    s.ofDeclarations? .type name all = none := by
  rw [ofDeclarations?]
  have hany : ((all.filter fun d => !d.isImported).any (·.hasSense .type)) = false := by
    refine List.any_eq_false.mpr fun d hd => ?_
    have hnot := h d (List.mem_of_mem_filter hd)
    change ¬ d.isType = true
    rw [hnot]
    nofun
  simp only [hany, Bool.false_eq_true, if_false]
  refine List.findSome?_eq_none_iff.mpr fun d hd => ?_
  have hnot := h d hd
  cases d with
  | imported => exact absurd hnot.symm Bool.false_ne_true
  | _ => rfl

theorem ofDeclarations?_cons {first : Declaration} {more : List Declaration}
    (htype : first.isType = true)
    (himported : first.isImported = false) :
    s.ofDeclarations? .type name (first :: more)
      = some (.declared s name (first :: more.filter fun d => !d.isImported)) := by
  have hfilter : ((first :: more).filter fun d => !d.isImported)
      = first :: more.filter fun d => !d.isImported :=
    List.filter_cons_of_pos (by rw [himported]; rfl)
  have hsense : first.hasSense .type = true := htype
  rw [ofDeclarations?]
  simp only [hfilter, List.any_cons, hsense, Bool.true_or, if_true]

theorem ambient_eq_none (h : s.program.HoldsFunctions) (name : Text) : s.ambient name = none := by
  refine List.findSome?_eq_none_iff.mpr ?_
  rintro ⟨path, source⟩ hsource
  have hbody : source.body [SourceTree.ambientName] = [] := by
    refine List.flatMap_eq_nil_iff.mpr fun statement hstatement => ?_
    have hfunction := h _ hsource statement hstatement
    cases statement with
    | function => rfl
    | _ => exact absurd hfunction Bool.false_ne_true
  simp only [hbody]
  rfl

/-- **A name is found among what is always there** from a place where nothing is a type of its own. -/
theorem exists_find (h : s.IsClear) (hname : name ≠ "this") {first : Declaration}
    {more : List Declaration}
    (hnamed : Standard.named s.program.options name = first :: more) (htype : first.isType = true)
    (himported : first.isImported = false) :
    ∃ others, s.find .type name = some (.declared (s.inside [] []) name (first :: others)) := by
  have hframes := h.frames
  rw [find]
  generalize s.frames = frames at hframes ⊢
  induction frames with
  | nil =>
    refine ⟨more.filter fun d => !d.isImported, ?_⟩
    have halways : s.always name = (s.inside [] [], first :: more) := by
      rw [always, ambient_eq_none h.program, hnamed]
      rfl
    rw [findIn, findOutside]
    simp only [ofDeclarations?_eq_none (Program.isType_of_mem_declarationsIn h.program _ _), halways,
      ofDeclarations?_cons htype himported]
  | cons frame frames ih =>
    have hframe := hframes frame List.mem_cons_self
    have hrest := ih fun other hother => hframes other (.tail _ hother)
    cases frame with
    | block declared =>
      have hnone : ∀ d ∈ (declared.filter (·.1 = name)).map (·.2), d.isType = false := by
        rintro d hd
        obtain ⟨item, hitem, rfl⟩ := List.mem_map.mp hd
        exact hframe item (List.mem_of_mem_filter hitem)
      rw [findIn]
      simp only [ofDeclarations?_eq_none hnone]
      exact hrest
    | types bound =>
      have hnone : bound.find? (·.name = name) = none := by
        refine List.find?_eq_none.mpr fun b hb heq => hname ?_
        rw [← of_decide_eq_true heq, hframe b hb]
      rw [findIn]
      simp only [hnone, ite_self]
      exact hrest
    | space => exact absurd hframe id

end Scope

/-! ## Names resolved -/

namespace Resolver

variable {s : Scope} {name : Text}

theorem map_type_bindArguments (r : Resolver) (s : Scope) {formals : List TypeFormal}
    {arguments : List SourceType} (h : formals.length = arguments.length) :
    (r.bindArguments s formals arguments).map (·.type) = arguments := by
  induction formals generalizing s arguments with
  | nil =>
    obtain rfl := List.length_eq_zero_iff.mp h.symm
    rfl
  | cons formal formals ih =>
    cases arguments with
    | nil => exact absurd h nofun
    | cons argument arguments => exact congrArg (List.cons argument) (ih _ (Nat.succ.inj h))

/-- The words by which arrays go. -/
def arrayNames : List Text := ["Array", "ReadonlyArray"].map Text.ofString

/-- **An interface that is always there** stands for itself, with as many arguments as it has
parameters. -/
theorem reference_interface (r : Resolver) (hs : s.IsClear) {count : Nat}
    (h : Standard.IsInterface name count)
    (hname : name ≠ "this" ∧ name ∉ arrayNames) (hkeyword : keywordType? name = none)
    {arguments : List SourceType} (hcount : arguments.length = count) :
    r.reference s [name] arguments = .standard name arguments := by
  obtain ⟨_, more, hnamed, site, formals, members, rfl, hformals⟩ := h s.program.options
  obtain ⟨others, hfind⟩ := Scope.exists_find hs hname.1 hnamed rfl rfl
  have hpath : s.findPath .type [name] = _ := hfind
  have harray : (name == "Array") = false ∧ (name == "ReadonlyArray") = false :=
    ⟨beq_false_of_ne (by rintro rfl; exact hname.2 (by decide)),
      beq_false_of_ne (by rintro rfl; exact hname.2 (by decide))⟩
  have hfilled : ∀ inner, (r.bindArguments inner formals arguments).map (·.type) = arguments :=
    fun inner => r.map_type_bindArguments inner (hformals.trans hcount.symm)
  have hdeclared : r.declaredType s (s.inside [] []) name
      (.interface site formals [] members :: others) arguments
      = .standard name arguments := by
    rw [declaredType]
    simp only [List.find?_cons, Declaration.isType, typeFormalsOf, hfilled, harray,
      Bool.and_false, Bool.or_false, Bool.false_eq_true, if_false]
    cases arguments with
    | nil => rfl
    | cons first rest => cases rest <;> rfl
  have hlength : ¬ 1 < [name].length := Nat.lt_irrefl 1
  cases arguments with
  | nil =>
    rw [reference]
    simp only [hkeyword, if_neg hlength, hpath, List.any_cons, Declaration.isType,
      Bool.true_or, if_true, hdeclared]
  | cons =>
    rw [reference]
    · simp only [if_neg hlength, hpath, List.any_cons, Declaration.isType, Bool.true_or,
        if_true, hdeclared]
    · exact fun _ _ => nofun

end Resolver

/-! ## Meanings -/

variable {s : Scope} {limit : Nat}

/-- A name without arguments means what it stands for. -/
theorem type_name (s : Scope) (limit : Nat) (site : Site) (name : Text) :
    (Walker.ofLimit (limit + 1)).resolver.type s (.name site [name] [])
      = (Walker.ofLimit limit).resolver.reference s [name] [] := rfl

/-- A name with one argument means what it stands for with the meaning of that. -/
theorem type_name_argument (s : Scope) (limit : Nat) (site : Site) (name : Text) (argument : TypeTree) :
    (Walker.ofLimit (limit + 1)).resolver.type s (.name site [name] [argument])
      = (Walker.ofLimit limit).resolver.reference s [name]
        [(Walker.ofLimit limit).resolver.type s argument] := rfl

/-- A union of two types means what is made of the two. -/
theorem type_union (s : Scope) (limit : Nat) (first second : TypeTree) :
    (Walker.ofLimit (limit + 1)).resolver.type s (.union [first, second])
      = .unionOf s.strict [(Walker.ofLimit limit).resolver.type s first,
        (Walker.ofLimit limit).resolver.type s second] :=
  rfl

/-- **The alias of the two buffers** stands for them. -/
theorem reference_bufferLike (hs : s.IsClear) (hresolving : s.resolving = []) :
    (Walker.ofLimit (limit + 2)).resolver.reference s ["ArrayBufferLike"] []
      = PlainType.bufferType true := by
  obtain ⟨_, more, hnamed, site, buffer, shared, rfl⟩ :=
    Standard.exists_named_bufferLike s.program.options
  obtain ⟨others, hfind⟩ := Scope.exists_find hs (by decide) hnamed rfl rfl
  have hpath : s.findPath .type ["ArrayBufferLike"] = _ := hfind
  let tree : TypeTree := .union [.name buffer ["ArrayBuffer"] [], .name shared ["SharedArrayBuffer"] []]
  let inner : Scope := { s with path := [], frames := [.types []], resolving := [⟨[], site.offset⟩] }
  have hclear : inner.IsClear := by
    refine ⟨hs.program, ?_⟩
    rintro _ (_ | ⟨_, ⟨⟩⟩)
    exact nofun
  have hmeaning : (Walker.ofLimit (limit + 2)).resolver.type inner tree
      = .unionOf true [.standard "ArrayBuffer" [], .standard "SharedArrayBuffer" []] := by
    rw [type_union, type_name, type_name,
      Resolver.reference_interface _ hclear Standard.isInterface_buffer (by decide) (by decide) rfl,
      Resolver.reference_interface _ hclear Standard.isInterface_sharedBuffer
        (by decide) (by decide) rfl]
    cases inner.strict <;> rfl
  have hlength : ¬ 1 < [("ArrayBufferLike" : Text)].length := Nat.lt_irrefl 1
  have hkeyword : keywordType? "ArrayBufferLike" = none := by decide
  rw [Resolver.reference]
  simp only [hkeyword, if_neg hlength, hpath, List.any_cons, Declaration.isType, Bool.true_or, if_true]
  rw [Resolver.declaredType, hresolving]
  change (if keepsAlias tree ((Walker.ofLimit (limit + 2)).resolver.type inner tree) then
      SourceType.alias .always "ArrayBufferLike" []
        ((Walker.ofLimit (limit + 2)).resolver.type inner tree).meaning
    else _) = _
  rw [hmeaning]
  rfl

/-- The buffers that an array of numbers of a fixed kind stands on are there under their name. -/
theorem reference_buffer (hs : s.IsClear) (hresolving : s.resolving = []) (mayBeShared : Bool) :
    (Walker.ofLimit (limit + 2)).resolver.reference s [PlainType.bufferName mayBeShared] []
      = PlainType.bufferType mayBeShared := by
  cases mayBeShared with
  | false =>
    exact Resolver.reference_interface _ hs Standard.isInterface_buffer (by decide) (by decide) rfl
  | true => exact reference_bufferLike hs hresolving

/-- An array is written with the brackets behind its element. -/
theorem length_lexemes_element (isReadonly : Bool) (element : PlainType) :
    element.lexemes.length + 2 ≤ (PlainType.array isReadonly element).lexemes.length := by
  have henclosed :
      element.lexemes.length ≤ (PlainType.enclosed element.tightness element.lexemes).length := by
    rw [PlainType.enclosed]
    split
    · rw [List.length_cons, List.length_append]
      omega
    · exact le_refl _
  cases isReadonly <;>
    simp only [PlainType.lexemes, List.length_cons, List.length_append, List.length_nil] <;> omega

/-- **A tree that says a plain type means that type** where nothing else is a type. -/
theorem Writes.type_eq {t : PlainType} {tree : TypeTree} (h : Writes t tree) (hs : s.IsClear)
    (hresolving : s.resolving = []) (hlimit : t.lexemes.length + 4 ≤ limit) :
    (Walker.ofLimit limit).resolver.type s tree = t.type s.strict := by
  induction h generalizing limit with
  | @keyword word site =>
    obtain ⟨limit, rfl⟩ : ∃ k, limit = k + 1 := Nat.exists_eq_succ_of_ne_zero (by omega)
    rw [type_name]
    cases word <;> rfl
  | arrayLike =>
    obtain ⟨limit, rfl⟩ : ∃ k, limit = k + 2 := Nat.exists_eq_add_of_le' (by omega)
    rw [type_name_argument,
      Resolver.reference_interface _ hs Standard.isInterface_arrayLike (by decide) (by decide) rfl,
      type_name]
    rfl
  | @int32Array mayBeShared site inner =>
    obtain ⟨limit, rfl⟩ : ∃ k, limit = k + 4 := Nat.exists_eq_add_of_le' (by omega)
    rw [type_name_argument,
      Resolver.reference_interface _ hs Standard.isInterface_integers (by decide) (by decide) rfl,
      type_name, reference_buffer hs hresolving]
    rfl
  | @array element tree _ ih =>
    have hlength := length_lexemes_element false element
    obtain ⟨limit, rfl⟩ : ∃ k, limit = k + 1 := Nat.exists_eq_succ_of_ne_zero (by omega)
    exact congrArg (SourceType.array false) (ih (by omega))
  | @readonly element tree _ ih =>
    have hlength := length_lexemes_element true element
    obtain ⟨limit, rfl⟩ : ∃ k, limit = k + 2 := Nat.exists_eq_add_of_le' (by omega)
    exact congrArg (SourceType.array true) (ih (by omega))
  | @orUndefined type tree site _ ih =>
    have hlength : (PlainType.orUndefined type).lexemes.length = type.lexemes.length + 2 :=
      List.length_append
    obtain ⟨limit, rfl⟩ : ∃ k, limit = k + 2 := Nat.exists_eq_add_of_le' (by omega)
    rw [type_union, ih (by omega), type_name]
    rfl

end Turnstile.Source
