import Turnstile.Proofs.Source.DescribedNames
import Turnstile.Proofs.Source.HandedNames
import Turnstile.Proofs.Source.UnionOrder

/-! # The signatures of what a source hands out

* **`Settles`**: what is described on the way holds in every order that goes on from there.
* **`Program.IsCalledBy`** is the first way to call what a name stands for; a function of several
  heads is called by the first of them.
* **`Program.signatures_of_names`**: which names are described, and by what. -/

namespace Turnstile.Source

/-! ## Descriptions in one order -/

/-- **What is described comes to the same** in every order that goes on from the types that came up on
the way. -/
def Settles {α : Type} (describing : Describing α) (inOrder : List Text → α) : Prop :=
  ∀ order, ∃ more, (describing.run order).2 = order ++ more
    ∧ ∀ later, (describing.run order).1 = inOrder (order ++ more ++ later)

namespace Settles

variable {α β : Type}

theorem pure (a : α) : Settles (Pure.pure a) fun _ => a :=
  fun order => ⟨[], (List.append_nil order).symm, fun _ => rfl⟩

/-- One description after another one. -/
theorem bind {first : Describing α} {next : α → Describing β} {inOrder : List Text → α}
    {nextInOrder : α → List Text → β} (hfirst : Settles first inOrder)
    (hnext : ∀ a, Settles (next a) (nextInOrder a)) :
    Settles (first >>= next) fun order => nextInOrder (inOrder order) order := by
  intro order
  obtain ⟨more, hafter, hvalue⟩ := hfirst order
  obtain ⟨more', hafter', hvalue'⟩ := hnext (first.run order).1 (order ++ more)
  refine ⟨more ++ more', ?_, fun later => ?_⟩
  · rw [← List.append_assoc, ← hafter', ← hafter]
    rfl
  · have hsame := hvalue (more' ++ later)
    rw [← List.append_assoc] at hsame
    have hrun :
        ((first >>= next).run order).1 = ((next (first.run order).1).run (order ++ more)).1 := by
      rw [← hafter]
      rfl
    rw [hrun, hvalue' later, ← List.append_assoc]
    exact congrArg (nextInOrder · _) hsame

theorem map {describing : Describing α} {inOrder : List Text → α} (f : α → β)
    (h : Settles describing inOrder) : Settles (f <$> describing) fun order => f (inOrder order) :=
  h.bind fun a => pure (f a)

/-- Descriptions of the items of a list, one after another. -/
theorem mapM {describing : α → Describing β} {inOrder : α → List Text → β} (items : List α)
    (h : ∀ item, Settles (describing item) (inOrder item)) :
    Settles (items.mapM describing) fun order => items.map fun item => inOrder item order := by
  induction items with
  | nil => exact pure []
  | cons item items ih =>
    rw [List.mapM_cons]
    exact (h item).bind fun b => ih.bind fun rest => pure (b :: rest)

end Settles

/-- **A type is settled once it came up.** -/
theorem SourceType.settles_spelled (type : SourceType) :
    Settles type.spelled fun order => (type.arranged order).toText := by
  refine fun order => ⟨type.comingUp, rfl, fun later => ?_⟩
  have hcomingUp : type.comingUp ⊆ order ++ type.comingUp := List.subset_append_right _ _
  rw [SourceType.comingUp, List.append_subset] at hcomingUp
  have hsame :
      type.arranged (order ++ type.comingUp ++ later) = type.arranged (order ++ type.comingUp) :=
    SourceType.arranged_append type hcomingUp.1 hcomingUp.2
  exact congrArg SourceType.toText hsame.symm

/-- A parameter described in an order. -/
def FormalType.describedIn (order : List Text) (isSynthetic : Bool) (place : Nat)
    (formal : FormalType) : Parameter :=
  if isSynthetic then ⟨formal.name, "unknown", .opaqueValue, true, false⟩
  else
    let type := (formal.declared.arranged order).toText
    { name := formal.nameAt place
      type
      kind := .ofType (if formal.isRest then elementType type else type)
      isOptional := formal.isRest || formal.isOptional
      isRest := formal.isRest }

/-- **A way to be called described in an order.** -/
def CallType.describedIn (order : List Text) (name : Text) (call : CallType) : Signature :=
  let result := (call.result.arranged order).toText
  { name
    parameters := ((List.range call.formals.length).zip call.formals).map fun (place, formal) =>
      formal.describedIn order call.isSynthetic place
    resultType := result
    resultKind := .ofType result }

theorem FormalType.settles_describe (isSynthetic : Bool) (place : Nat) (formal : FormalType) :
    Settles (formal.describe isSynthetic place) fun order =>
      formal.describedIn order isSynthetic place := by
  cases isSynthetic with
  | true => exact Settles.pure _
  | false => exact formal.declared.settles_spelled.bind fun type => Settles.pure _

theorem CallType.settles_describe (name : Text) (call : CallType) :
    Settles (call.describe name) fun order => call.describedIn order name :=
  (Settles.mapM _ fun (place, formal) => formal.settles_describe call.isSynthetic place).bind
    fun _ => call.result.settles_spelled.bind fun _ => Settles.pure _

namespace Program

variable {p : Program} {path name : Text}

theorem settles_signature? (p : Program) (walked : Walked) (path name : Text) :
    Settles (p.signature? walked path name) fun order =>
      (p.call? walked (p.exported path name)).map (·.describedIn order name) := by
  rw [signature?]
  cases p.call? walked (p.exported path name) with
  | none => exact Settles.pure none
  | some call => exact (call.settles_describe name).map some

/-- **All names of a source are described in one order.** -/
theorem exists_signatures (p : Program) (path : Text) :
    ∃ order, p.signatures path = (p.source? path).map fun _ =>
      (p.exportedNames path).filterMap fun name =>
        (p.call? p.walked (p.exported path name)).map (·.describedIn order name) := by
  obtain ⟨more, -, hall⟩ := Settles.mapM (p.exportedNames path)
    (fun name => p.settles_signature? p.walked path name) []
  refine ⟨[] ++ more ++ [], ?_⟩
  rw [signatures]
  simp only [hall []]
  rw [List.filterMap_map]
  rfl

/-! ## The first way to call -/

theorem resolver_limit (limit : Nat) : (Walker.ofLimit limit).resolver.limit = limit := by
  induction limit with
  | zero => rfl
  | succ limit ih => exact congrArg (· + 1) ih

/-- Sources that are walked over leave the walker as it is. -/
theorem walked_walker (p : Program) : p.walked.walker = Walker.ofLimit (4 * p.size + 64) := by
  rw [walked]
  induction p.sources with
  | nil => rfl
  | cons first rest ih =>
    obtain ⟨path, source⟩ := first
    rw [List.foldr_cons]
    simp only [walkSource]
    split
    · exact ih
    · exact ih

/-- The scope of what is declared inside namespaces of a source. -/
def scopeAt (p : Program) (path : Text) (spaces : List Text) : Scope :=
  { Scope.ofSource p path with values := p.walked.values }.inside path spaces

/-- **The ways to call** what a source declares under a name. -/
def waysToCall (p : Program) (path : Text) (spaces : List Text) (name : Text) : List CallType :=
  let scope := p.scopeAt path spaces
  let r := p.walked.walker.resolver
  r.callsOf scope (r.found scope (.declared scope name (p.declarationsIn path spaces name)))

/-- **What is called first in a way**: it is declared as a function or a variable. -/
def IsCalledBy (p : Program) (entity : Entity) (call : CallType) : Prop :=
  ∃ path spaces name, entity = .declared path spaces name
    ∧ (∃ d ∈ p.declarationsIn path spaces name, isCallable d = true)
    ∧ (p.waysToCall path spaces name).head? = some call

theorem call?_eq_some_iff {entity : Entity} {call : CallType} :
    p.call? p.walked entity = some call ↔ p.IsCalledBy entity call := by
  cases entity with
  | declared path spaces name =>
    rw [call?, Option.ite_none_right_eq_some, List.any_eq_true]
    constructor
    · rintro ⟨hcallable, hhead⟩
      exact ⟨path, spaces, name, rfl, hcallable, hhead⟩
    · rintro ⟨_, _, _, heq, hcallable, hhead⟩
      obtain ⟨rfl, rfl, rfl⟩ := Entity.declared.inj heq
      exact ⟨hcallable, hhead⟩
  | whole | value | missing => exact iff_of_false nofun fun ⟨_, _, _, heq, _⟩ => absurd heq nofun

theorem callsOf_callable {r : Resolver} {limit : Nat} (hlimit : r.limit = limit + 1) (s : Scope)
    (calls : List CallType) : r.callsOf s (.callable calls) = calls := by
  have hshape : r.callsOf s (.callable calls) = (r.shape s (.callable calls)).calls := rfl
  rw [hshape, Resolver.shape, hlimit, Resolver.shapeOf]

/-- What is called in the ways of a function and more, is called in those first. -/
theorem exists_callsOf_intersection {r : Resolver} {limit : Nat}
    (hlimit : r.limit = limit + 2) (s : Scope)
    (calls : List CallType) (type : SourceType) :
    ∃ more, r.callsOf s (.intersection [.callable calls, type]) = calls ++ more := by
  have hshape : r.callsOf s (.intersection [.callable calls, type])
      = (r.shape s (.intersection [.callable calls, type])).calls := rfl
  rw [hshape, Resolver.shape, hlimit, Resolver.shapeOf, Resolver.joinedShape, List.map_cons,
    List.flatMap_cons, Resolver.shapeOf]
  exact ⟨_, rfl⟩

/-- **The ways to call functions of one name** come first, in their order; those with code do not count
beside others. -/
theorem exists_waysToCall {spaces : List Text} {first : FunctionTree} {rest : List FunctionTree}
    (hfunctions : functionsOf (p.declarationsIn path spaces name) = first :: rest) :
    ∃ more, p.waysToCall path spaces name
      = (callableTrees (first :: rest)).flatMap (fun tree =>
          (p.walked.walker.resolver.functionCall (p.scopeAt path spaces) tree).ownCalls) ++ more := by
  have hlimit : p.walked.walker.resolver.limit = 4 * p.size + 62 + 2 := by
    rw [walked_walker, resolver_limit]
  -- A function is found in its own scope, in which nothing is being resolved.
  have hscope : { p.scopeAt path spaces with resolving := [] } = p.scopeAt path spaces := rfl
  rw [waysToCall]
  generalize p.walked.walker.resolver = r at hlimit
  rw [Resolver.found, hlimit, Resolver.foundType, Resolver.valueOf, hfunctions]
  simp only [hscope]
  split
  · exact exists_callsOf_intersection hlimit _ _ _
  · exact ⟨[], by rw [callsOf_callable hlimit, List.append_nil]⟩

/-- The one way to call a function that declares its result. -/
theorem functionCall_of_result {r : Resolver} {s : Scope} {tree : FunctionTree}
    (h : tree.result.isSome = true) :
    (r.functionCall s tree).ownCalls = [r.function s none { tree with body := .absent }] := by
  rw [Resolver.functionCall, if_pos h]
  rfl

/-- A function with heads, or without code, is called in the first of them. -/
theorem callableTrees_of_heads {trees heads : List FunctionTree} {head : FunctionTree}
    (h : (trees.filter fun tree => !tree.isBodied) = head :: heads) :
    ∃ more, callableTrees trees = head :: more := by
  rcases trees with _ | ⟨first, _ | ⟨second, rest⟩⟩
  · exact absurd h nofun
  · have hhead : first = head := by
      rw [List.filter_cons] at h
      split at h
      · exact (List.cons.inj h).1
      · exact absurd h nofun
    exact ⟨[], by rw [callableTrees, hhead]⟩
  · refine ⟨heads, ?_⟩
    rw [callableTrees, h]
    exact nofun

/-- **A function of several heads is called by the first one.** -/
theorem isCalledBy_of_heads {spaces : List Text} {head : FunctionTree} {heads : List FunctionTree}
    (hheads : ((functionsOf (p.declarationsIn path spaces name)).filter fun tree => !tree.isBodied)
      = head :: heads) {call : CallType}
    (hcall : (p.walked.walker.resolver.functionCall (p.scopeAt path spaces) head).ownCalls.head?
      = some call) : p.IsCalledBy (.declared path spaces name) call := by
  obtain ⟨more, hcallable⟩ := callableTrees_of_heads hheads
  cases hfunctions : functionsOf (p.declarationsIn path spaces name) with
  | nil => exact absurd (hfunctions ▸ hheads) nofun
  | cons first rest =>
    refine ⟨path, spaces, name, rfl, ?_, ?_⟩
    · have hmem : first ∈ functionsOf (p.declarationsIn path spaces name) :=
        hfunctions ▸ List.mem_cons_self
      obtain ⟨d, hd, hfirst⟩ := List.mem_filterMap.mp hmem
      refine ⟨d, hd, ?_⟩
      cases d with
      | function => rfl
      | _ => exact absurd hfirst nofun
    · obtain ⟨others, hways⟩ := exists_waysToCall hfunctions
      rw [hways, ← hfunctions, hcallable, List.flatMap_cons, List.append_assoc,
        List.head?_append, hcall]
      rfl

/-! ## All signatures of a source -/

/-- Only a source of the program hands out names. -/
theorem source?_isSome_of_handsOutName (h : p.HandsOutName name path) :
    (p.source? path).isSome = true := by
  cases h with
  | own h =>
    rw [handsOut] at h
    cases hsource : p.source? path with
    | none => rw [hsource] at h; exact absurd h List.not_mem_nil
    | some source => rfl
  | on hother =>
    rw [handsOn] at hother
    cases hsource : p.source? path with
    | none => rw [hsource] at hother; exact absurd hother List.not_mem_nil
    | some source => rfl

/-- A name that stands for something is handed out. -/
theorem handsOutName_of_isCalledBy {call : CallType} (h : p.IsCalledBy (p.exported path name) call) :
    p.HandsOutName name path := by
  obtain ⟨_, _, _, hentity, -⟩ := h
  rw [← origin?_isSome_iff]
  rw [exported] at hentity
  cases horigin : p.origin? path name with
  | none => rw [horigin] at hentity; cases hentity
  | some link => rfl

/-- **What is described of a source**: the names that it hands out and that can be called, in one
order. -/
theorem exists_mem_signatures_iff {signatures : List Signature}
    (h : p.signatures path = some signatures) :
    ∃ order, ∀ s, s ∈ signatures ↔ p.HandsOutName s.name path
      ∧ ∃ call, p.IsCalledBy (p.exported path s.name) call ∧ s = call.describedIn order s.name := by
  obtain ⟨order, hall⟩ := p.exists_signatures path
  rw [h] at hall
  obtain ⟨source, -, hlist⟩ := Option.map_eq_some_iff.mp hall.symm
  refine ⟨order, fun s => ?_⟩
  rw [← hlist, List.mem_filterMap]
  constructor
  · rintro ⟨name, hname, hs⟩
    obtain ⟨call, hcall, rfl⟩ := Option.map_eq_some_iff.mp hs
    exact ⟨mem_exportedNames_iff.mp hname, call, call?_eq_some_iff.mp hcall, rfl⟩
  · rintro ⟨hname, call, hcall, hs⟩
    refine ⟨s.name, mem_exportedNames_iff.mpr hname, ?_⟩
    rw [call?_eq_some_iff.mpr hcall, Option.map_some, ← hs]

/-- **The signatures of a source**. There is exactly one for each name that the source hands out and
that stands for a function, or for a variable that can be called. It is that of the first way to call
what the name stands for, also where that is a function of several heads. So names for the same have
the same parameters and results; along any number of sources only the name changes, and the order in
which unions are written. -/
theorem signatures_of_names (p : Program) (path : Text) :
    (p.signatures path = none ↔ p.source? path = none)
      ∧ ∀ signatures, p.signatures path = some signatures →
        (signatures.map (·.name)).Nodup
        ∧ ∃ order,
          (∀ s, s ∈ signatures ↔ p.HandsOutName s.name path
            ∧ ∃ call, p.IsCalledBy (p.exported path s.name) call
              ∧ s = call.describedIn order s.name)
          ∧ (∀ s ∈ signatures, ∀ s' ∈ signatures,
              p.exported path s.name = p.exported path s'.name →
              s.parameters = s'.parameters ∧ s.resultType = s'.resultType
                ∧ s.resultKind = s'.resultKind)
          ∧ (∀ s ∈ signatures, ∀ other own,
              Relation.ReflTransGen p.Passes (path, s.name) (other, own) →
              ∃ (call : CallType) (others : List Signature) (order' : List Text),
                p.signatures other = some others
                ∧ call.describedIn order' own ∈ others ∧ s = call.describedIn order s.name)
          ∧ ∀ s ∈ signatures, ∀ other spaces inner head heads call,
              p.exported path s.name = .declared other spaces inner →
              ((functionsOf (p.declarationsIn other spaces inner)).filter fun tree => !tree.isBodied)
                = head :: heads →
              (p.walked.walker.resolver.functionCall (p.scopeAt other spaces) head).ownCalls.head?
                = some call →
              s = call.describedIn order s.name := by
  refine ⟨Option.map_eq_none_iff, fun signatures hsignatures => ⟨nodup_signatures hsignatures, ?_⟩⟩
  obtain ⟨order, hmem⟩ := exists_mem_signatures_iff hsignatures
  refine ⟨order, hmem, ?_, ?_, ?_⟩
  · intro s hs s' hs' hsame
    obtain ⟨-, call, hcall, heq⟩ := (hmem s).mp hs
    obtain ⟨-, call', hcall', heq'⟩ := (hmem s').mp hs'
    obtain rfl : call = call' := by
      rw [hsame, ← call?_eq_some_iff] at hcall
      rw [← call?_eq_some_iff, hcall] at hcall'
      exact Option.some.inj hcall'
    rw [heq, heq']
    exact ⟨rfl, rfl, rfl⟩
  · intro s hs other own hchain
    obtain ⟨-, call, hcall, heq⟩ := (hmem s).mp hs
    rw [exported_eq_of_chain hchain] at hcall
    have hname := handsOutName_of_isCalledBy hcall
    obtain ⟨source, hsource⟩ := Option.isSome_iff_exists.mp (source?_isSome_of_handsOutName hname)
    have hothers : p.signatures other = some _ := Option.map_eq_some_iff.mpr ⟨source, hsource, rfl⟩
    obtain ⟨order', hmem'⟩ := exists_mem_signatures_iff hothers
    exact ⟨call, _, order', hothers, (hmem' _).mpr ⟨hname, call, hcall, rfl⟩, heq⟩
  · intro s hs other spaces inner head heads call hentity hheads hhead
    obtain ⟨-, call', hcall', heq⟩ := (hmem s).mp hs
    obtain rfl : call' = call := by
      rw [hentity, ← call?_eq_some_iff] at hcall'
      rw [call?_eq_some_iff.mpr (isCalledBy_of_heads hheads hhead)] at hcall'
      exact (Option.some.inj hcall').symm
    exact heq

/-! ## A function handed over -/

/-- Two sources, of which the second one hands over a function of the first one under another name. In
the first one another function comes before it. -/
def libraryFiles : FileTree where
  files :=
    [("/m.d.ts", "export function g(y: 'b' | 'a'): void;\nexport function f(x: 'a' | 'b'): void;\n"),
      ("/n.d.ts", "export {f as h} from './m.js';\n")]
  links := []

/-- The program of the second source. -/
def library : Program := .ofRoot .strict libraryFiles "/n.d.ts"

/-- The signatures of one of its sources, on one line each. -/
def libraryLines (path : Text) : Option (List Text) :=
  (library.signatures path).map fun signatures => signatures.map Signature.toText

/-- What is handed over from elsewhere, as names. -/
def handedOver? : Handed → Option (Text × Text)
  | .elsewhere name moduleName => some (name, moduleName)
  | _ => none

theorem eq_elsewhere {handed : Option Handed} {own moduleName : Text}
    (h : handed.bind handedOver? = some (own, moduleName)) :
    handed = some (.elsewhere own moduleName) := by
  obtain ⟨handed, rfl, hhanded⟩ := Option.bind_eq_some_iff.mp h
  cases handed with
  | elsewhere =>
    obtain ⟨rfl, rfl⟩ := Prod.mk.inj (Option.some.inj hhanded)
    rfl
  | _ => exact absurd hhanded nofun

/-- What is read of the two sources, and what is described of them. -/
theorem library_read :
    library.moduleAt? "/n.d.ts" "./m.js" = some "/m.d.ts"
      ∧ ((library.handsOut "/n.d.ts").lookup ("h" : Text)).bind handedOver?
        = some (("f" : Text), ("./m.js" : Text))
      ∧ (library.signatures "/n.d.ts").map (·.map (·.name)) = some [("h" : Text)]
      ∧ libraryLines "/m.d.ts"
        = some [("g(y: \"b\" | \"a\"): void" : Text), ("f(x: \"b\" | \"a\"): void" : Text)]
      ∧ libraryLines "/n.d.ts" = some [("h(x: \"a\" | \"b\"): void" : Text)] := by
  decide +kernel

/-- The second source hands over the function of the first one. -/
theorem library_passes :
    Relation.ReflTransGen library.Passes ("/n.d.ts", "h") ("/m.d.ts", "f") := by
  obtain ⟨hmodule, hhanded, -⟩ := library_read
  exact .single (.handedOver (eq_elsewhere hhanded) hmodule)

/-- The function under its other name is the one of the first source: there is one way to call it, of
which both signatures are descriptions. -/
theorem signatures_of_names_library :
    ∃ (call : CallType) (order order' : List Text) (handed own : List Signature),
      library.signatures "/n.d.ts" = some handed ∧ library.signatures "/m.d.ts" = some own
        ∧ call.describedIn order "h" ∈ handed ∧ call.describedIn order' "f" ∈ own := by
  obtain ⟨-, -, hnames, -⟩ := library_read
  have hpasses := library_passes
  have hall := (signatures_of_names library "/n.d.ts").2
  -- nothing below is about these sources any more
  generalize library = p at hnames hpasses hall ⊢
  obtain ⟨handed, hhanded, hname⟩ := Option.map_eq_some_iff.mp hnames
  obtain ⟨s, rfl, hs⟩ := List.map_eq_singleton_iff.mp hname
  obtain ⟨-, order, -, -, hchain, -⟩ := hall [s] hhanded
  rw [← hs] at hpasses ⊢
  obtain ⟨call, own, order', hown, hmem, heq⟩ := hchain s (List.mem_singleton_self s) _ _ hpasses
  exact ⟨call, order, order', [s], own, hhanded, hown, List.mem_singleton.mpr heq.symm, hmem⟩

/-- **A function handed over may be written in another way**: the types that came up before it are not
those that came up before it where it is declared. -/
theorem handed_over_in_another_order :
    Relation.ReflTransGen library.Passes ("/n.d.ts", "h") ("/m.d.ts", "f")
      ∧ libraryLines "/m.d.ts"
        = some [("g(y: \"b\" | \"a\"): void" : Text), ("f(x: \"b\" | \"a\"): void" : Text)]
      ∧ libraryLines "/n.d.ts" = some [("h(x: \"a\" | \"b\"): void" : Text)] := by
  obtain ⟨-, -, -, hm, hn⟩ := library_read
  exact ⟨library_passes, hm, hn⟩

end Program

end Turnstile.Source
