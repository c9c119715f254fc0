import Turnstile.Proofs.Source.DescribedSignatures
import Turnstile.Proofs.Source.PlainMeanings
import Turnstile.Proofs.Source.PlainSignatures

/-! # Declared functions

What a walk over the declaration of a function comes to, where its parameters and its result are of
plain types. -/

namespace Turnstile.Source

/-! ## What walks come to -/

/-- **What a walk comes to**, whatever was found before it. -/
def Gives {α : Type} (walk : Walk α) (wanted : α → Prop) : Prop := ∀ found, wanted (walk found).1

namespace Gives

variable {α β : Type} {walk : Walk α} {wanted : α → Prop} {wantedNext : β → Prop}

theorem pure {a : α} (h : wanted a) : Gives (Pure.pure a) wanted := fun _ => h

/-- One walk after another one. -/
theorem bind {next : α → Walk β} (h : Gives walk wanted)
    (hnext : ∀ a, wanted a → Gives (next a) wantedNext) :
    Gives (walk >>= next) wantedNext := fun found => hnext _ (h found) _

theorem map (h : Gives walk wanted) {f : α → β} (hf : ∀ a, wanted a → wantedNext (f a)) :
    Gives (f <$> walk) wantedNext := fun found => hf _ (h found)

/-- A walk of which the outcome does not matter. -/
theorem any (walk : Walk α) : Gives walk fun _ => True := fun _ => trivial

/-- Walks over items with what is wanted of each. -/
theorem mapM {ι : Type} {item : α → Walk β} {wanted : ι → β → Prop} {items : List α} {all : List ι}
    (h : List.Forall₂ (fun i a => Gives (item a) (wanted i)) all items) :
    Gives (items.mapM item) (List.Forall₂ wanted all) := by
  induction h with
  | nil => exact pure .nil
  | cons hfirst _ ih =>
    rw [List.mapM_cons]
    exact hfirst.bind fun b hb => ih.bind fun bs hbs => pure (.cons hb hbs)

/-- A walk over the code of a function. -/
theorem inFunction (h : Gives walk wanted) (start : Flow) :
    Gives (Walk.inFunction start walk) fun found => wanted found.1 := fun _ => h _

end Gives

variable {strict : Bool} {place : Place} {limit : Nat}

/-- A place where nothing is a type of its own, and no alias is being resolved. -/
structure Place.IsClear (place : Place) (strict : Bool) : Prop where
  scope : place.scope.IsClear
  resolving : place.scope.resolving = []
  strict_eq : place.scope.strict = strict

namespace Walker

/-- A written plain type. -/
theorem gives_checkedType (hplace : place.IsClear strict) {t : PlainType} {tree : TypeTree}
    (h : Writes t tree)
    (hlimit : t.lexemes.length + 4 ≤ limit) :
    Gives ((ofLimit limit).checkedType place tree) (· = t.type strict) := by
  refine (Gives.any _).bind fun _ _ found => ?_
  have hscope : { place.scope with values := found.values }.IsClear :=
    ⟨hplace.scope.program, hplace.scope.frames⟩
  have hmeaning := h.type_eq hscope hplace.resolving hlimit
  exact hmeaning.trans (congrArg t.type hplace.strict_eq)

end Walker

/-- Items stay in relation where the second ones are numbered. -/
theorem forall₂_zip_range {α β : Type} {R : α → β → Prop} {l : List α} {u : List β}
    (h : List.Forall₂ R l u) :
    List.Forall₂ (fun a (item : Nat × β) => R a item.2) l ((List.range u.length).zip u) := by
  refine List.forall₂_map_right_iff.mp ?_
  rwa [List.map_snd_zip (by rw [List.length_range])]

/-- Parameters with ordinary names stand for no receiver. -/
theorem isReceiver_of_binds {parameters : List (PlainParameter strict)} {binders : List Binder}
    (h : List.Forall₂ PlainParameter.Binds parameters binders) :
    ∀ b ∈ binders.head?, Resolver.isReceiver b.formal = false := by
  cases h with
  | nil => exact nofun
  | @cons p _ _ _ hfirst _ =>
    obtain ⟨site, nameSite, tree, rfl, -⟩ := hfirst
    rintro _ ⟨⟩
    refine decide_eq_false fun heq => ?_
    have hname := p.isOrdinary_name
    rw [Option.some.inj heq] at hname
    exact absurd hname (by decide)

/-- A plain type as a result says nothing about a parameter. -/
theorem resultOf_of_writes {t : PlainType} {tree : TypeTree} (h : Writes t tree)
    (r : Resolver) (s : Scope) :
    r.resultOf s tree = (r.type s tree, none) := by
  cases h <;> rfl

/-- **What a parameter is taken for.** -/
def PlainParameter.IsFormal (p : PlainParameter strict) (formal : FormalType) : Prop :=
  formal.name = p.name ∧ formal.isRest = p.isRest
    ∧ (formal.isRest || formal.isOptional) = (p.isRest || p.isOptional)
    ∧ formal.declared = p.type.type strict

namespace Walker

theorem gives_parameter (hplace : place.IsClear strict) (p : PlainParameter strict)
    {b : Binder} (h : p.Binds b)
    (hlimit : p.type.lexemes.length + 4 ≤ limit) (number : Nat) :
    Gives ((ofLimit limit).parameter place none number b) fun found => p.IsFormal found.1 := by
  obtain ⟨site, nameSite, tree, rfl, htree⟩ := h
  refine (Gives.any _).bind fun _ _ => ?_
  have hannotated :
      Gives (some <$> (ofLimit limit).checkedType place tree) (· = some (p.type.type strict)) :=
    (gives_checkedType hplace htree hlimit).map fun _ => congrArg some
  refine hannotated.bind ?_
  rintro _ rfl
  -- The rest of the walk finds nothing that the parameter is described by.
  refine fun found => ⟨rfl, rfl, ?_, rfl⟩
  change (p.isRest || (p.isOptional && !p.isRest || p.isRest || false)) = _
  cases p.isRest <;> cases p.isOptional <;> rfl

/-- The place inside of a function whose parameters are names. -/
theorem isClear_insideOf (hplace : place.IsClear strict) (tree : FunctionTree) :
    (insideOf place tree (some .other)).IsClear strict := by
  refine ⟨⟨hplace.scope.program, ?_⟩, hplace.resolving, hplace.strict_eq⟩
  rintro frame (_ | ⟨_, _ | ⟨_, hframe⟩⟩)
  · intro item hitem
    obtain ⟨n, -, rfl⟩ := List.mem_map.mp hitem
    rfl
  · rintro b (_ | ⟨_, ⟨⟩⟩)
    rfl
  · exact hplace.scope.frames frame hframe

/-- The parts of a function without a receiver and without code that declares its result. -/
theorem functionParts_of_declared (w : Walker) (place : Place) (site resultSite : Site)
    (name : Option Text) {binders : List Binder}
    (hreceiver : ∀ b ∈ binders.head?, Resolver.isReceiver b.formal = false)
    (result : TypeTree) {tree : FunctionTree}
    (htree : tree
      = ⟨site, name, .plain, false, false, [], binders, some (result, resultSite), .absent⟩) :
    w.functionParts place none tree = do
      let inner := insideOf place tree (some .other)
      let formals ← ((List.range binders.length).zip binders).mapM fun (number, b) => do
        let (formal, names) ← w.parameter inner none number b
        bound inner names
        return formal
      let s ← Walk.scope inner
      w.checkType inner result
      let declared := w.resolver.resultOf s result
      return ⟨none, formals, some declared,
        dutyOf w.resolver s tree (some declared.1) none, none, none⟩ := by
  subst htree
  cases binders with
  | nil => rfl
  | cons first rest =>
    have hnot : ¬ Resolver.isReceiver first.formal = true := by
      rw [hreceiver first rfl]
      nofun
    rw [functionParts]
    simp only [if_neg hnot]
    rfl

/-- **The parts of a declared function** whose parameters and result are of plain types. -/
theorem gives_functionParts (hplace : place.IsClear strict) (s : PlainSignature strict)
    {tree : FunctionTree}
    (h : s.Declares tree) (hlimit : s.lexemes.length + 4 ≤ limit) :
    Gives ((ofLimit limit).functionParts place none tree) fun parts =>
      parts.receiver = none ∧ List.Forall₂ PlainParameter.IsFormal s.parameters parts.formals
        ∧ parts.declared = some (s.result.type strict, none) := by
  have hlength := s.length_lexemes
  obtain ⟨site, binders, result, resultSite, htree, hbinders, hresult⟩ := h
  have hinner := isClear_insideOf hplace tree
  rw [functionParts_of_declared _ _ _ _ _ (isReceiver_of_binds hbinders) result htree]
  have hitems : List.Forall₂ (fun (p : PlainParameter strict) (item : Nat × Binder) =>
        p.type.lexemes.length < s.formals.length ∧ p.Binds item.2)
      s.parameters ((List.range binders.length).zip binders) :=
    (List.forall₂_and_left _ _).mpr ⟨s.length_formals.2, forall₂_zip_range hbinders⟩
  have hformals : Gives (((List.range binders.length).zip binders).mapM fun (number, b) => do
      let (formal, names) ← (ofLimit limit).parameter (insideOf place tree (some .other)) none number b
      bound (insideOf place tree (some .other)) names
      return formal) (List.Forall₂ PlainParameter.IsFormal s.parameters) := by
    refine Gives.mapM (hitems.imp ?_)
    rintro p ⟨number, b⟩ ⟨htype, hb⟩
    refine (gives_parameter hinner p hb (by omega) number).bind fun found hfound => ?_
    exact (Gives.any _).bind fun _ _ => .pure hfound
  refine hformals.bind fun formals hformals => ?_
  have hscope : Gives (Walk.scope (insideOf place tree (some .other))) fun s =>
      s.IsClear ∧ s.resolving = [] ∧ s.strict = strict := fun found =>
    ⟨⟨hinner.scope.program, hinner.scope.frames⟩, hinner.resolving, hinner.strict_eq⟩
  refine hscope.bind ?_
  rintro scope ⟨hclear, hresolving, rfl⟩
  refine (Gives.any _).bind fun _ _ => .pure ⟨rfl, hformals, congrArg some ?_⟩
  rw [resultOf_of_writes hresult, hresult.type_eq hclear hresolving (by omega)]

/-- **The way in which a declared function is called.** -/
theorem gives_function (hplace : place.IsClear strict) (s : PlainSignature strict) {tree : FunctionTree}
    (h : s.Declares tree) (hlimit : s.lexemes.length + 4 ≤ limit) :
    Gives ((ofLimit (limit + 1)).function place none tree) fun call =>
      call.isSynthetic = false ∧ List.Forall₂ PlainParameter.IsFormal s.parameters call.formals
        ∧ call.result = s.result.type strict := by
  have hparts := gives_functionParts hplace s h hlimit
  obtain ⟨site, binders, result, resultSite, rfl, -⟩ := h
  change Gives ((ofLimit limit).wholeFunction place none _) _
  rw [wholeFunction]
  refine (Gives.any _).bind fun _ _ => (Gives.any _).bind fun start _ => (hparts.inFunction _).bind ?_
  rintro ⟨⟨receiver, formals, _, duty, value, predicate⟩, given⟩ ⟨-, hformals, rfl⟩
  refine (Gives.any _).bind fun _ _ => ?_
  exact Gives.pure ⟨rfl, hformals, rfl⟩

end Walker

/-! ## Declared functions described -/

/-- What is an ordinary name does not take an argument apart. -/
theorem nameAt_of_isName {formal : FormalType} (h : isName formal.name = true) (place : Nat) :
    formal.nameAt place = formal.name := by
  obtain ⟨u, more, heq, hstart, -⟩ := exists_cons_of_isName h
  have hnot : ∀ v : UInt16, isNameStart v = false → formal.name.startsWith [v] = false := by
    intro v hv
    rw [heq]
    refine Bool.and_eq_false_iff.mpr (.inl (beq_false_of_ne ?_))
    rintro rfl
    rw [hstart] at hv
    exact absurd hv nofun
  have hbrace : formal.name.startsWith "\x7b" = false := hnot 0x7B (by decide)
  have hbracket : formal.name.startsWith "[" = false := hnot 0x5B (by decide)
  rw [FormalType.nameAt, hbrace, hbracket]
  rfl

theorem PlainParameter.describedIn_eq (p : PlainParameter strict) {formal : FormalType}
    (h : p.IsFormal formal)
    (order : List Text) (place : Nat) : formal.describedIn order false place = p.parameter := by
  obtain ⟨hname, hrest, hoptional, hdeclared⟩ := h
  have hnameAt : formal.nameAt place = p.name := by
    rw [nameAt_of_isName (by rw [hname]; exact isName_of_isOrdinary p.isOrdinary_name), hname]
  rw [FormalType.describedIn, if_neg Bool.false_ne_true, hdeclared,
    PlainType.arranged_type order p.isNormal_type,
    hnameAt, hoptional, hrest]
  rfl

/-- **A declared function is described by its signature**, in whatever order types came up. -/
theorem PlainSignature.describedIn_eq (s : PlainSignature strict) {call : CallType}
    (hsynthetic : call.isSynthetic = false)
    (hformals : List.Forall₂ PlainParameter.IsFormal s.parameters call.formals)
    (hresult : call.result = s.result.type strict) (order : List Text) :
    call.describedIn order s.name = s.signature := by
  have hparameters :
      s.parameters.map PlainParameter.parameter = (call.describedIn order s.name).parameters := by
    rw [← List.forall₂_eq_eq_eq, List.forall₂_map_left_iff]
    refine List.forall₂_map_right_iff.mpr ?_
    rw [hsynthetic]
    exact (forall₂_zip_range hformals).imp fun p item hformal =>
      (p.describedIn_eq hformal order item.1).symm
  have htext : (call.result.arranged order).toText = (s.result.type strict).toText := by
    rw [hresult, PlainType.arranged_type order s.isNormal_result]
  rw [PlainSignature.signature, hparameters, ← htext]
  rfl

end Turnstile.Source
