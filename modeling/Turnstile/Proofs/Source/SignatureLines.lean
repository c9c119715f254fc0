import Mathlib.Data.Set.List
import Turnstile.Proofs.Source.DeclaredFunctions

/-! # Signatures read back from their lines

The line of a signature declares a function, which is described by that signature.

* **`Program.IsFunction`**: a program is one source with one function.
* **`Program.signatures_line`**: the program of the line of a plain signature is such, and is
  described by that signature.
* **`Program.signatures_declarationLine`**: each signature that is described of a source, with ordinary
  names and plain types, is that of a plain one, and so it is described again of its line. -/

namespace Turnstile.Source

/-! ## A source with one function -/

/-- The head of a declared function: its name, and a result instead of code. -/
theorem PlainSignature.Declares.head {strict : Bool} {s : PlainSignature strict}
    {tree : FunctionTree} (h : s.Declares tree) :
    tree.name = some s.name ∧ tree.isBodied = false ∧ tree.result.isSome = true
      ∧ { tree with body := .absent } = tree := by
  obtain ⟨site, binders, result, resultSite, rfl, -⟩ := h
  exact ⟨rfl, rfl, rfl, rfl⟩

/-- **A program is a single source with a single function**, which is handed out under its name. -/
structure Program.IsFunction (p : Program) (path name : Text) (tree : FunctionTree) : Prop where
  exists_source : ∃ source, p.sources = [(path, source)]
    ∧ source.statements = [.function Reader.handedOut tree]
  name_eq : tree.name = some name

namespace Program.IsFunction

variable {p : Program} {path name : Text} {tree : FunctionTree}

theorem exists_source? (h : p.IsFunction path name tree) :
    ∃ source, p.source? path = some source ∧ source.statements = [.function Reader.handedOut tree] := by
  obtain ⟨source, hsources, hstatements⟩ := h.exists_source
  refine ⟨source, ?_, hstatements⟩
  rw [source?, hsources, List.lookup_cons_self]

theorem declared_eq (h : p.IsFunction path name tree) :
    (Statement.function Reader.handedOut tree).declared = [(name, .function tree)] := by
  rw [Statement.declared, h.name_eq]
  rfl

/-- The one name is handed out. -/
theorem handsOut_eq (h : p.IsFunction path name tree) : p.handsOut path = [(name, .own name)] := by
  obtain ⟨source, hsource, hstatements⟩ := h.exists_source?
  have hmodule : ∀ onlyDeclares, source.isModule onlyDeclares = true := by
    intro onlyDeclares
    rw [SourceTree.isModule, hstatements]
    exact Bool.or_true _
  have hhanded : ∀ implicitly, (Statement.function Reader.handedOut tree).handsOut implicitly
      = [(name, .own name)] := by
    intro implicitly
    simp only [Statement.handsOut, Statement.modifiers?, h.declared_eq]
    rfl
  rw [handsOut, hsource]
  simp only [SourceTree.handsOut, hmodule, if_true, hstatements]
  have hfunctions : ([Statement.function Reader.handedOut tree].filter Statement.isFunction)
      ++ ([Statement.function Reader.handedOut tree].filter fun s => !s.isFunction)
      = [Statement.function Reader.handedOut tree] := rfl
  rw [hfunctions, List.flatMap_singleton, hhanded]
  rfl

theorem handsOn_eq (h : p.IsFunction path name tree) : p.handsOn path = [] := by
  obtain ⟨source, hsource, hstatements⟩ := h.exists_source?
  rw [handsOn, hsource]
  simp only [SourceTree.handsOn, hstatements]
  rfl

theorem exportedNames_eq (h : p.IsFunction path name tree) : p.exportedNames path = [name] := by
  rw [exportedNames, namesFrom, h.handsOut_eq, h.handsOn_eq]
  rfl

theorem declarationsIn_eq (h : p.IsFunction path name tree) :
    p.declarationsIn path [] name = [.function tree] := by
  obtain ⟨source, hsource, hstatements⟩ := h.exists_source?
  have hbody : source.body [] = [.function Reader.handedOut tree] := hstatements
  rw [declarationsIn, hsource]
  simp [SourceTree.declarations, hbody, h.declared_eq]

/-- The one name stands for the function. -/
theorem exported_eq (h : p.IsFunction path name tree) :
    p.exported path name = .declared path [] name := by
  have horigin : p.origin? path name = some (path, .own name) := by
    rw [origin?, originFrom, h.handsOut_eq, List.lookup_cons_self]
    rfl
  rw [exported, horigin, steps]
  simp only [entity, h.declarationsIn_eq]

/-- Nothing in the program is a type of its own. -/
theorem isClear_scopeAt (h : p.IsFunction path name tree) :
    (Place.ofScope (p.scopeAt path [])).IsClear p.options.strictNulls := by
  obtain ⟨source, hsources, hstatements⟩ := h.exists_source
  refine ⟨⟨?_, nofun⟩, rfl, rfl⟩
  change p.HoldsFunctions
  rw [HoldsFunctions, hsources]
  rintro _ (_ | ⟨_, ⟨⟩⟩) s hs
  rw [hstatements] at hs
  obtain rfl := List.mem_singleton.mp hs
  rfl

/-- The function of a plain signature is called in one way, which is first. -/
theorem isCalledBy {s : PlainSignature p.options.strictNulls} (h : p.IsFunction path s.name tree)
    (htree : s.Declares tree) :
    p.IsCalledBy (p.exported path s.name)
      (p.walked.walker.resolver.function (p.scopeAt path []) none tree) := by
  obtain ⟨-, hbodied, hresult, habsent⟩ := htree.head
  have hheads : ((functionsOf (p.declarationsIn path [] s.name)).filter fun tree => !tree.isBodied)
      = [tree] := by
    rw [h.declarationsIn_eq]
    exact List.filter_cons_of_pos (by rw [hbodied]; rfl)
  have hcalls := functionCall_of_result (r := p.walked.walker.resolver) (s := p.scopeAt path []) hresult
  rw [habsent] at hcalls
  rw [h.exported_eq]
  exact isCalledBy_of_heads hheads (congrArg List.head? hcalls)

/-- **A program of one function with a plain signature is described by that signature.** -/
theorem signatures_eq {s : PlainSignature p.options.strictNulls} (h : p.IsFunction path s.name tree)
    (htree : s.Declares tree)
    (hsize : s.lexemes.length ≤ p.size) : p.signatures path = some [s.signature] := by
  obtain ⟨order, hall⟩ := p.exists_signatures path
  obtain ⟨source, hsource, -⟩ := h.exists_source?
  have hcall := call?_eq_some_iff.mpr (h.isCalledBy htree)
  have hlimit : s.lexemes.length + 4 ≤ 4 * p.size + 62 := by omega
  obtain ⟨hsynthetic, hformals, hresult⟩ :=
    Walker.gives_function h.isClear_scopeAt s htree hlimit (.start (p.scopeAt path []).values)
  rw [walked_walker] at hcall
  have hdescribed := s.describedIn_eq hsynthetic hformals hresult order
  rw [hall, hsource, h.exportedNames_eq, Option.map_some, List.filterMap_cons, hcall, Option.map_some]
  exact congrArg (fun signature => some [signature]) hdescribed

end Program.IsFunction

/-! ## The program of a line -/

/-- Nothing more is read where nothing is referred to. -/
theorem Program.reach_nil (options : CheckOptions) (tree : FileTree)
    (read : List (Text × SourceTree)) (steps : Nat) :
    reach options tree read steps [] = read := by
  cases steps <;> rfl

section

variable {strict : Bool} (s : PlainSignature strict) {options : CheckOptions}
  {files : FileTree} {path : Text}

/-- **The program of a line** is the line alone, and declares one function. -/
theorem exists_sources_of_line (hline : files.text? path = some (declarationLine s.signature)) :
    ∃ source tree, (Program.ofRoot options files path).sources = [(path, source)]
      ∧ source.statements = [.function Reader.handedOut tree]
      ∧ source.size = s.lexemes.length + 3 ∧ s.Declares tree := by
  obtain ⟨tree, hstatements, hsize, htree⟩ := exists_ofText_declarationLine s
  refine ⟨_, tree, ?_, hstatements, hsize, htree⟩
  have hmodules : (SourceTree.ofText (declarationLine s.signature)).modulesNamed = [] := by
    rw [SourceTree.modulesNamed, hstatements]
    rfl
  have hfound : [path].filterMap
      (fun path => (files.text? path).map fun text => (path, SourceTree.ofText text))
      = [(path, SourceTree.ofText (declarationLine s.signature))] := by
    rw [List.filterMap_cons, hline]
    rfl
  have hnew : [path].filter (fun path => ([] : List (Text × SourceTree)).all (·.1 ≠ path)
      && (options.hasMarkup || ([] : List (Text × SourceTree)).isEmpty || !path.endsWith ".tsx"))
      = [path] := by
    simp
  rw [Program.ofRoot, Program.reach]
  simp only [hnew, hfound]
  -- The declaration refers to no other source.
  simp only [List.isEmpty_cons, Bool.false_eq_true, if_false, List.flatMap_cons,
    List.flatMap_nil, hmodules]
  exact Program.reach_nil ..

/-- **The line of a plain signature** is described by that signature. -/
theorem Program.signatures_line (s : PlainSignature options.strictNulls)
    (hline : files.text? path = some (declarationLine s.signature)) :
    (Program.ofRoot options files path).signatures path = some [s.signature] := by
  obtain ⟨source, tree, hsources, hstatements, hsize, htree⟩ := exists_sources_of_line s hline
  have hfunction : (Program.ofRoot options files path).IsFunction path s.name tree :=
    ⟨⟨source, hsources, hstatements⟩, htree.head.1⟩
  have hprogram : s.lexemes.length ≤ (Program.ofRoot options files path).size := by
    rw [Program.size, hsources]
    change _ ≤ 0 + source.size
    omega
  exact hfunction.signatures_eq htree hprogram

end

/-! ## Signatures with plain types -/

/-- A text that a plain type is written as. -/
def IsPlainText (strict : Bool) (text : Text) : Prop := ∃ t : PlainType, text = (t.type strict).toText

example : IsPlainText true "(Int32Array<ArrayBufferLike> | undefined)[]" :=
  ⟨.array false (.orUndefined (.int32Array true)), by decide⟩

/-- **A signature with ordinary names and plain types.** -/
structure HasPlainTypes (strict : Bool) (s : Signature) : Prop where
  isOrdinary_name : isOrdinary s.name = true
  parameters : ∀ p ∈ s.parameters, isOrdinary p.name = true ∧ IsPlainText strict p.type
  result : IsPlainText strict s.resultType

section

variable {strict : Bool}

/-- Each text of a plain type is that of one that is written as it stands. -/
theorem IsPlainText.exists_isNormal {text : Text} (h : IsPlainText strict text) :
    ∃ t : PlainType, t.isNormal strict = true ∧ text = (t.type strict).toText := by
  obtain ⟨t, rfl⟩ := h
  exact ⟨t.normal strict, t.isNormal_normal, by rw [PlainType.type_normal]⟩

/-- **What is described of a parameter** is that of a parameter of a plain type, if its name and the
text of its type are such. -/
theorem FormalType.exists_parameter_eq {formal : FormalType} {order : List Text}
    {isSynthetic : Bool} {place : Nat}
    (hname : isOrdinary (formal.describedIn order isSynthetic place).name = true)
    (htype : IsPlainText strict (formal.describedIn order isSynthetic place).type) :
    ∃ p : PlainParameter strict, p.parameter = formal.describedIn order isSynthetic place := by
  cases isSynthetic with
  | true => exact ⟨⟨formal.name, .keyword .unknown, true, false, hname, rfl⟩, rfl⟩
  | false =>
    obtain ⟨t, hnormal, htext⟩ := htype.exists_isNormal
    refine ⟨⟨formal.nameAt place, t, formal.isOptional, formal.isRest, hname, hnormal⟩, ?_⟩
    have hdeclared : (formal.declared.arranged order).toText = (t.type strict).toText := htext
    rw [PlainParameter.parameter, ← hdeclared]
    rfl

/-- **What is described of a way to be called** is a plain signature, if its names are ordinary and its
types are plain. -/
theorem CallType.exists_signature_eq {call : CallType} {order : List Text} {name : Text}
    (h : HasPlainTypes strict (call.describedIn order name)) :
    ∃ s : PlainSignature strict, s.signature = call.describedIn order name := by
  obtain ⟨result, hresult, htext⟩ := h.result.exists_isNormal
  have hparameters : (call.describedIn order name).parameters
      ∈ Set.range (List.map fun p : PlainParameter strict => p.parameter) := by
    rw [Set.range_list_map]
    intro p hp
    obtain ⟨hname, htype⟩ := h.parameters p hp
    obtain ⟨⟨place, formal⟩, -, rfl⟩ := List.mem_map.mp hp
    exact FormalType.exists_parameter_eq hname htype
  obtain ⟨parameters, hparameters⟩ := hparameters
  refine ⟨⟨name, parameters, result, h.isOrdinary_name, hresult⟩, ?_⟩
  have hdescribed : (call.result.arranged order).toText = (result.type strict).toText := htext
  rw [PlainSignature.signature, ← hdescribed]
  exact congrArg (fun parameters => Signature.mk name parameters _ _) hparameters

end

/-- **A signature is read back from its line.** What is described of a function or a variable, with
ordinary names and plain types, is described again of the line that declares such a function. -/
theorem Program.signatures_declarationLine {p : Program} {path : Text} {signatures : List Signature}
    (hsignatures : p.signatures path = some signatures) {s : Signature} (hs : s ∈ signatures)
    (hplain : HasPlainTypes p.options.strictNulls s) {files : FileTree} {line : Text}
    (hline : files.text? line = some (declarationLine s)) :
    (Program.ofRoot p.options files line).signatures line = some [s] := by
  obtain ⟨order, hmem⟩ := exists_mem_signatures_iff hsignatures
  obtain ⟨-, call, -, heq⟩ := (hmem s).mp hs
  rw [heq] at hplain
  obtain ⟨plain, hsignature⟩ := CallType.exists_signature_eq hplain
  rw [← heq] at hsignature
  subst hsignature
  exact signatures_line plain hline

/-! ## A signature read back -/

/-- A function with a default, and its line. -/
def scaleFunction : Text :=
  "export function scale(by = 2, xs?: readonly (number | undefined)[], ...more: bigint[][]) \x7b return by \x7d"

def scaleLine : Text :=
  "export declare function scale(by?: number, xs?: readonly (number | undefined)[], ...more: bigint[][]): number;"

/-- Two sources, one with the function and one with the line. -/
def scaleFiles : FileTree where
  files := [("/scale.ts", scaleFunction), ("/line.ts", scaleLine)]
  links := []

/-- What is described of the function. -/
def scaleSignature : Signature where
  name := "scale"
  parameters :=
    [⟨"by", "number", .number, true, false⟩,
      ⟨"xs", "readonly (number | undefined)[]", .opaqueValue, true, false⟩,
      ⟨"more", "bigint[][]", .opaqueValue, true, true⟩]
  resultType := "number"
  resultKind := .number

theorem hasPlainTypes_scaleSignature : HasPlainTypes true scaleSignature where
  isOrdinary_name := by decide
  parameters := by
    rintro p (_ | ⟨_, _ | ⟨_, _ | ⟨_, ⟨⟩⟩⟩⟩)
    · exact ⟨by decide, .keyword .number, by decide⟩
    · exact ⟨by decide, .array true (.orUndefined (.keyword .number)), by decide⟩
    · exact ⟨by decide, .array false (.array false (.keyword .integer)), by decide⟩
  result := ⟨.keyword .number, by decide⟩

theorem signatures_scaleFiles :
    (Program.ofRoot .strict scaleFiles "/scale.ts").signatures "/scale.ts" = some [scaleSignature] := by
  decide +kernel

/-- A function whose types are not all written is described again of its line, where they are. -/
theorem signatures_scaleLine :
    scaleFiles.text? "/line.ts" = some (declarationLine scaleSignature)
      ∧ (Program.ofRoot .strict scaleFiles "/line.ts").signatures "/line.ts"
        = some [scaleSignature] := by
  have hline : scaleFiles.text? "/line.ts" = some (declarationLine scaleSignature) := by decide +kernel
  exact ⟨hline, Program.signatures_declarationLine signatures_scaleFiles List.mem_cons_self
    hasPlainTypes_scaleSignature hline⟩

end Turnstile.Source
