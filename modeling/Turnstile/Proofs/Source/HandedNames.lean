import Mathlib.Data.List.Perm.Subperm
import Mathlib.Data.Nat.Find
import Mathlib.Logic.Relation
import Turnstile.Source.Program

/-! # What names stand for along sources

A source hands out names by itself, and hands on those of others; what it hands out may stand in yet
another source. Both are followed for a number of steps, and these are always enough.

* **`Program.HandsOutName`** says which names a source hands out, however many sources they come
  through, and **`Program.mem_exportedNames_iff`** that these are the listed ones.
* **`Program.entity_steps`**: if something is found at all, it is found within the steps of the program,
  because no link is gone along twice.
* **`Program.Passes`** is one step of a name from a source to another, under the same name or another
  one; **`Program.exported_eq_of_passes`** says that names stand for the same along any number of them.
  -/

namespace Turnstile.Source.Program

variable {p : Program} {path other name : Text} {visited : List Text} {steps : Nat}
  {handed : Handed}

/-! ## The names that a source hands out -/

theorem mem_of_lookup_eq_some {α : Type} {items : List (Text × α)} {item : α}
    (h : items.lookup name = some item) : (name, item) ∈ items := by
  obtain ⟨before, behind, rfl, -⟩ := List.lookup_eq_some_iff.mp h
  exact List.mem_append_right _ List.mem_cons_self

theorem lookup_isSome_iff {α : Type} {items : List (Text × α)} :
    (items.lookup name).isSome = true ↔ name ∈ items.map Prod.fst := by
  constructor
  · intro h
    obtain ⟨item, hitem⟩ := Option.isSome_iff_exists.mp h
    exact List.mem_map_of_mem (mem_of_lookup_eq_some hitem)
  · intro h
    obtain ⟨⟨_, item⟩, hmem, rfl⟩ := List.mem_map.mp h
    by_contra hnone
    rw [Bool.not_eq_true, Option.isSome_eq_false_iff, Option.isNone_iff_eq_none,
      List.lookup_eq_none_iff] at hnone
    exact absurd (hnone _ hmem) (by simp)

/-- The paths of the sources. -/
def paths (p : Program) : List Text := p.sources.map Prod.fst

theorem mem_paths_of_mem_handsOn (h : other ∈ p.handsOn path) : path ∈ p.paths := by
  rw [handsOn] at h
  split at h
  · next source hsource => exact List.mem_map_of_mem (mem_of_lookup_eq_some hsource)
  · exact absurd h List.not_mem_nil

/-- **A name that a source hands out**: by itself, or on from another source. What goes by no name of
its own is not handed on. -/
inductive HandsOutName (p : Program) (name : Text) : (path : Text) → Prop
  | own {path : Text} (h : name ∈ (p.handsOut path).map Prod.fst) : HandsOutName p name path
  | on {path other : Text} (hother : other ∈ p.handsOn path) (hname : name ≠ defaultName)
      (h : HandsOutName p name other) : HandsOutName p name path

/-- The sources that a name comes through on its way to one that hands it out. -/
inductive Route (p : Program) (name : Text) : (path : Text) → List Text → Prop
  | own {path : Text} (h : name ∈ (p.handsOut path).map Prod.fst) : Route p name path []
  | on {path other : Text} {rest : List Text} (hother : other ∈ p.handsOn path)
      (hname : name ≠ defaultName) (h : Route p name other rest) :
      Route p name path (other :: rest)

theorem HandsOutName.exists_route (h : p.HandsOutName name path) : ∃ rest, p.Route name path rest := by
  induction h with
  | own h => exact ⟨[], .own h⟩
  | on hother hname _ ih =>
    obtain ⟨rest, hrest⟩ := ih
    exact ⟨_, .on hother hname hrest⟩

/-- A route that comes through a source goes on from there, and is shorter. -/
theorem Route.from_mem {rest : List Text} (h : p.Route name path rest) (hmem : other ∈ rest) :
    ∃ shorter, p.Route name other shorter ∧ shorter.length < rest.length ∧ shorter ⊆ rest := by
  induction h with
  | own => exact absurd hmem List.not_mem_nil
  | @on path first rest _ _ h ih =>
    obtain rfl | hmem := List.mem_cons.mp hmem
    · exact ⟨rest, h, Nat.lt_succ_self _, List.subset_cons_self _ _⟩
    · obtain ⟨shorter, hroute, hlength, hsub⟩ := ih hmem
      exact ⟨shorter, hroute, Nat.lt_succ_of_lt hlength, List.subset_cons_of_subset _ hsub⟩

/-- **One step of the way** to where a name comes from. -/
theorem originFrom_succ (hpath : path ∉ visited) :
    p.originFrom visited (steps + 1) path name
      = match (p.handsOut path).lookup name with
        | some handed => some (path, handed)
        | none =>
          if name = defaultName then none
          else (p.handsOn path).findSome? fun other =>
            p.originFrom (path :: visited) steps other name := by
  rw [originFrom]
  exact if_neg (by simpa using hpath)

/-- **A name is found along any route**, if none of its sources was visited: there are as many steps
as sources that were not. -/
theorem originFrom_isSome_of_route {rest : List Text} (h : p.Route name path rest)
    (hnew : ∀ one ∈ path :: rest, one ∉ visited) (hnodup : visited.Nodup)
    (hvisited : visited ⊆ p.paths) (hsteps : p.sources.length < steps + visited.length) :
    (p.originFrom visited steps path name).isSome = true := by
  induction hlength : rest.length using Nat.strongRecOn
    generalizing path rest visited steps with
  | ind length ih =>
    have hpath : path ∉ visited := hnew path List.mem_cons_self
    have hcount : visited.length ≤ p.sources.length := by
      simpa [paths] using (hnodup.subperm hvisited).length_le
    obtain ⟨steps, rfl⟩ := Nat.exists_eq_add_one_of_ne_zero (by omega : steps ≠ 0)
    by_cases hmem : path ∈ rest
    · -- The route comes back to where it starts, so there is a shorter one.
      obtain ⟨shorter, hroute, hshorter, hsub⟩ := h.from_mem hmem
      refine ih _ (hlength ▸ hshorter) hroute (fun one hone => ?_) hnodup hvisited hsteps rfl
      exact hnew one (List.cons_subset_cons _ hsub hone)
    · rw [originFrom_succ hpath]
      cases hown : (p.handsOut path).lookup name with
      | some handed => rfl
      | none =>
        cases h with
        | own h => exact absurd (lookup_isSome_iff.mpr h) (by simp [hown])
        | @on _ next rest hnext hname h =>
          rw [List.mem_cons, not_or] at hmem
          have hnext' : p.originFrom (path :: visited) steps next name |>.isSome := by
            refine ih rest.length (by rw [← hlength]; exact Nat.lt_succ_self _) h ?_ ?_ ?_ ?_ rfl
            · intro one hone
              have hone' : one ≠ path := by
                rintro rfl
                exact (List.mem_cons.mp hone).elim hmem.1 hmem.2
              rw [List.mem_cons, not_or]
              exact ⟨hone', hnew one (List.mem_cons_of_mem _ hone)⟩
            · exact List.nodup_cons.mpr ⟨hpath, hnodup⟩
            · exact List.cons_subset.mpr ⟨mem_paths_of_mem_handsOn hnext, hvisited⟩
            · rw [List.length_cons]
              omega
          simp only [if_neg hname]
          rw [List.findSome?_isSome_iff]
          exact ⟨next, hnext, hnext'⟩

/-- The names that are listed are those that come from somewhere. -/
theorem mem_namesFrom_iff :
    name ∈ p.namesFrom visited steps path
      ↔ (p.originFrom visited steps path name).isSome = true := by
  induction steps generalizing visited path with
  | zero => simp [namesFrom, originFrom]
  | succ steps ih =>
    rw [namesFrom, originFrom]
    split
    · simp
    · rw [List.mem_eraseDups, List.mem_append, ← lookup_isSome_iff]
      cases (p.handsOut path).lookup name with
      | some handed => simp
      | none =>
        simp only [List.mem_flatMap, List.mem_filter, ih]
        by_cases hname : name = defaultName
        · simp [hname]
        · simp [hname, List.findSome?_isSome_iff]

/-- A name that is listed is handed out. -/
theorem handsOutName_of_mem (h : name ∈ p.namesFrom visited steps path) :
    p.HandsOutName name path := by
  induction steps generalizing visited path with
  | zero => exact absurd h List.not_mem_nil
  | succ steps ih =>
    rw [namesFrom] at h
    split at h
    · exact absurd h List.not_mem_nil
    · rw [List.mem_eraseDups, List.mem_append] at h
      obtain h | h := h
      · exact .own h
      · obtain ⟨other, hother, h⟩ := List.mem_flatMap.mp h
        obtain ⟨h, hname⟩ := List.mem_filter.mp h
        exact .on hother (of_decide_eq_true hname) (ih h)

/-- **The listed names are those that a source hands out.** -/
theorem mem_exportedNames_iff : name ∈ p.exportedNames path ↔ p.HandsOutName name path := by
  constructor
  · exact handsOutName_of_mem
  · intro h
    obtain ⟨rest, hrest⟩ := h.exists_route
    rw [exportedNames, mem_namesFrom_iff]
    exact originFrom_isSome_of_route hrest (fun _ _ => List.not_mem_nil) List.nodup_nil
      (List.nil_subset _) (Nat.lt_succ_self _)

theorem origin?_isSome_iff : (p.origin? path name).isSome = true ↔ p.HandsOutName name path := by
  rw [← mem_exportedNames_iff, exportedNames, mem_namesFrom_iff, origin?]

/-- What comes from somewhere is handed out there. -/
theorem lookup_of_originFrom (h : p.originFrom visited steps path name = some (other, handed)) :
    (p.handsOut other).lookup name = some handed := by
  induction steps generalizing visited path with
  | zero => exact absurd h nofun
  | succ steps ih =>
    rw [originFrom] at h
    split at h
    · exact absurd h nofun
    · split at h
      · next hown =>
        obtain ⟨rfl, rfl⟩ := Prod.mk.inj (Option.some.inj h)
        exact hown
      · split at h
        · exact absurd h nofun
        · obtain ⟨next, -, hnext⟩ := List.exists_of_findSome?_eq_some h
          exact ih hnext

/-- What a source hands out by itself comes from there. -/
theorem origin?_of_lookup (h : (p.handsOut path).lookup name = some handed) :
    p.origin? path name = some (path, handed) := by
  rw [origin?, originFrom_succ List.not_mem_nil, h]

/-! ## Links -/

/-- What a statement hands out is handed out all the more where nothing has to be said. -/
theorem mem_handsOut_implicitly {s : Statement} {implicitly : Bool}
    (h : (name, handed) ∈ s.handsOut implicitly) : (name, handed) ∈ s.handsOut true := by
  unfold Statement.handsOut at h ⊢
  split at h <;> try exact h
  split at h
  · simp only
    split at h
    · next hdefault => rwa [if_pos hdefault]
    · next hdefault =>
      rw [if_neg hdefault, if_pos (Bool.or_true _)]
      split at h
      · exact h
      · exact absurd h List.not_mem_nil
  · exact absurd h List.not_mem_nil

theorem mem_of_mem_firstNamed {α : Type} {items : List (Text × α)} {item : Text × α}
    (h : item ∈ SourceTree.firstNamed items) : item ∈ items := by
  induction items with
  | nil => exact h
  | cons first rest ih =>
    rw [SourceTree.firstNamed, List.mem_cons, List.mem_filter] at h
    obtain rfl | ⟨h, -⟩ := h
    · exact List.mem_cons_self
    · exact List.mem_cons_of_mem _ (ih h)

/-- What a statement of a source leads on to is one of the links. -/
theorem mem_links {source : SourceTree} {s : Statement} (hsource : p.source? path = some source)
    (hs : s ∈ source.statements) (h : handed ∈ s.links) : (path, handed) ∈ p.links :=
  List.mem_flatMap.mpr ⟨(path, source), mem_of_lookup_eq_some hsource,
    List.mem_map_of_mem (List.mem_flatMap.mpr ⟨s, hs, h⟩)⟩

theorem mem_links_of_lookup (h : (p.handsOut path).lookup name = some handed) :
    (path, handed) ∈ p.links := by
  have hmem := mem_of_lookup_eq_some h
  rw [handsOut] at hmem
  split at hmem
  · next source hsource =>
    rw [SourceTree.handsOut] at hmem
    split at hmem
    · obtain ⟨s, hs, hmem⟩ := List.mem_flatMap.mp (mem_of_mem_firstNamed hmem)
      have hstatement : s ∈ source.statements := by
        rw [List.mem_append, List.mem_filter, List.mem_filter] at hs
        exact hs.elim And.left And.left
      refine mem_links hsource hstatement (List.mem_append_left _ ?_)
      exact List.mem_map_of_mem (mem_handsOut_implicitly hmem)
    · exact absurd hmem List.not_mem_nil
  · exact absurd hmem List.not_mem_nil

/-- What a source brings in is one of the links, with the name that it starts from. -/
theorem mem_links_of_declaration {declaration : Declaration}
    (h : declaration ∈ p.declarationsIn path [] name) (hlink : handed ∈ declaration.links) :
    (path, handed) ∈ p.links := by
  rw [declarationsIn] at h
  split at h
  · next source hsource =>
    obtain ⟨s, hs, h⟩ := List.mem_flatMap.mp h
    obtain ⟨⟨own, _⟩, hmem, rfl⟩ := List.mem_map.mp h
    refine mem_links hsource hs (List.mem_append_right _ ?_)
    exact List.mem_flatMap.mpr ⟨_, (List.mem_filter.mp hmem).1, hlink⟩
  · exact absurd h List.not_mem_nil

/-- The link that something handed over leads on to, if it does not stand for anything yet. -/
def next? (p : Program) : Text × Handed → Option (Text × Handed)
  | (path, .elsewhere name moduleName) =>
    (p.moduleAt? path moduleName).bind fun other => p.origin? other name
  | (path, .along (name :: _)) => some (path, .own name)
  | (path, .own name) =>
    match p.declarationsIn path [] name with
    | .imported _ handed :: others =>
      if others.all Declaration.isImported then some (path, handed) else none
    | _ => none
  | _ => none

/-- What further names lead to from something: into the namespaces that it declares. -/
def intoSpaces (p : Program) (rest : List Text) : Entity → Entity
  | .declared path spaces name => p.inSpaces path spaces name rest
  | _ => .missing

theorem entity_succ (p : Program) (link : Text × Handed) :
    (∃ e, p.next? link = none ∧ ∀ steps, p.entity (steps + 1) link.1 link.2 = e)
      ∨ ∃ (link' : Text × Handed) (into : Entity → Entity),
          p.next? link = some link' ∧ into .missing = .missing
            ∧ ∀ steps, p.entity (steps + 1) link.1 link.2 = into (p.entity steps link'.1 link'.2) := by
  obtain ⟨path, handed⟩ := link
  cases handed with
  | value expression => exact .inl ⟨_, rfl, fun steps => by rw [entity]⟩
  | whole moduleName => exact .inl ⟨_, rfl, fun steps => by rw [entity]⟩
  | elsewhere name moduleName =>
    cases hnext : (p.moduleAt? path moduleName).bind fun other => p.origin? other name with
    | none => exact .inl ⟨.missing, hnext, fun steps => by rw [entity, hnext]⟩
    | some link' => exact .inr ⟨link', id, hnext, rfl, fun steps => by rw [entity, hnext]; rfl⟩
  | along names =>
    cases names with
    | nil => exact .inl ⟨.missing, rfl, fun steps => by rw [entity]⟩
    | cons name rest =>
      exact .inr ⟨(path, .own name), p.intoSpaces rest, rfl, rfl, fun steps => rfl⟩
  | own name =>
    cases hdeclared : p.declarationsIn path [] name with
    | nil => exact .inl ⟨.missing, by rw [next?, hdeclared], fun steps => by rw [entity, hdeclared]⟩
    | cons first others =>
      cases first with
      | imported site handed =>
        cases hothers : others.all Declaration.isImported with
        | true =>
          exact .inr ⟨(path, handed), id, by rw [next?, hdeclared]; simp [hothers], rfl,
            fun steps => by rw [entity, hdeclared]; simp [hothers]⟩
        | false =>
          exact .inl ⟨.declared path [] name, by rw [next?, hdeclared]; simp [hothers],
            fun steps => by rw [entity, hdeclared]; simp [hothers]⟩
      | _ =>
        exact .inl
          ⟨.declared path [] name, by rw [next?, hdeclared], fun steps => by rw [entity, hdeclared]⟩

variable {link link' : Text × Handed}

/-- A statement hands out no names inside one another. -/
theorem along_not_mem_handsOut {s : Statement} {names : List Text} {implicitly : Bool} :
    (name, .along names) ∉ s.handsOut implicitly := by
  unfold Statement.handsOut
  split <;> try simp
  split
  · split
    · simp
    · split <;> simp
  · simp

/-- Where names inside one another are brought in, the first of them is followed. -/
theorem own_mem_links {declaration : Declaration} {rest : List Text}
    (h : .along (name :: rest) ∈ declaration.links) : .own name ∈ declaration.links := by
  cases declaration with
  | imported site handed =>
    cases handed with
    | along names =>
      cases names with
      | nil => simp [Declaration.links] at h
      | cons first others =>
        simp only [Declaration.links, List.mem_cons, Handed.along.injEq, List.cons.injEq, reduceCtorEq,
          List.not_mem_nil, or_false] at h ⊢
        rw [h.1]
        exact .inr rfl
    | _ => simp [Declaration.links] at h
  | _ => exact absurd h List.not_mem_nil

/-- A link leads on to a link. -/
theorem mem_links_of_next? (h : p.next? link = some link') (hlink : link ∈ p.links) :
    link' ∈ p.links := by
  obtain ⟨path, handed⟩ := link
  cases handed with
  | value | whole => exact absurd h nofun
  | elsewhere name moduleName =>
    obtain ⟨other, -, horigin⟩ := Option.bind_eq_some_iff.mp h
    exact mem_links_of_lookup (lookup_of_originFrom horigin)
  | own name =>
    rw [next?] at h
    split at h
    · next site handed others hdeclared =>
      split at h
      · obtain rfl := Option.some.inj h
        refine mem_links_of_declaration (hdeclared ▸ List.mem_cons_self) ?_
        cases handed with
        | along names => cases names <;> exact List.mem_cons_self
        | _ => exact List.mem_cons_self
      · exact absurd h nofun
    · exact absurd h nofun
  | along names =>
    cases names with
    | nil => exact absurd h nofun
    | cons name rest =>
      obtain rfl := Option.some.inj h
      -- Names inside one another are brought in, together with the first of them.
      obtain ⟨⟨own, source⟩, hsource, hmem⟩ := List.mem_flatMap.mp hlink
      obtain ⟨_, hmem, heq⟩ := List.mem_map.mp hmem
      obtain ⟨rfl, rfl⟩ := Prod.mk.inj heq
      obtain ⟨s, hs, hmem⟩ := List.mem_flatMap.mp hmem
      refine List.mem_flatMap.mpr ⟨_, hsource, List.mem_map_of_mem (List.mem_flatMap.mpr ⟨s, hs, ?_⟩)⟩
      rw [Statement.links, List.mem_append] at hmem ⊢
      obtain hmem | hmem := hmem
      · obtain ⟨⟨exportedName, _⟩, hmem, rfl⟩ := List.mem_map.mp hmem
        exact absurd hmem along_not_mem_handsOut
      · obtain ⟨declared, hdeclared, hmem⟩ := List.mem_flatMap.mp hmem
        exact .inr (List.mem_flatMap.mpr ⟨declared, hdeclared, own_mem_links hmem⟩)

/-- What is found is found in more steps as well. -/
theorem entity_mono (h : p.entity steps link.1 link.2 ≠ .missing) (more : Nat) :
    p.entity (steps + more) link.1 link.2 = p.entity steps link.1 link.2 := by
  induction steps generalizing link with
  | zero => exact absurd rfl h
  | succ steps ih =>
    rw [Nat.add_right_comm]
    obtain ⟨e, -, he⟩ | ⟨link', into, -, hmissing, hinto⟩ := p.entity_succ link
    · rw [he, he]
    · rw [hinto] at h ⊢
      rw [hinto, ih]
      intro hnone
      rw [hnone] at h
      exact h hmissing

/-- **No link is gone along twice**: if it takes all of some steps to find what a link leads to, there
are as many links. -/
theorem exists_links_of_entity (hlink : link ∈ p.links)
    (hfound : p.entity (steps + 1) link.1 link.2 ≠ .missing)
    (hbefore : p.entity steps link.1 link.2 = .missing) :
    ∃ all : List (Text × Handed), all.Nodup ∧ all ⊆ p.links ∧ all.length = steps + 1
      ∧ ∀ one ∈ all, p.entity (steps + 1) one.1 one.2 ≠ .missing := by
  induction steps generalizing link with
  | zero =>
    exact ⟨[link], List.nodup_cons.mpr ⟨List.not_mem_nil, List.nodup_nil⟩, by simpa using hlink, rfl,
      by simpa using hfound⟩
  | succ steps ih =>
    obtain ⟨e, -, he⟩ | ⟨link', into, hnext, hmissing, hinto⟩ := p.entity_succ link
    · rw [he] at hfound hbefore
      exact absurd hbefore hfound
    · have hfound' : p.entity (steps + 1) link'.1 link'.2 ≠ .missing := by
        intro hnone
        rw [hinto, hnone] at hfound
        exact hfound hmissing
      have hbefore' : p.entity steps link'.1 link'.2 = .missing := by
        by_contra hnot
        -- One step less would do for the next link, and so for this one.
        rw [hinto, entity_mono hnot 1, ← hinto] at hfound
        exact hfound hbefore
      obtain ⟨all, hnodup, hsub, hlength, hall⟩ := ih (mem_links_of_next? hnext hlink) hfound' hbefore'
      refine ⟨link :: all, List.nodup_cons.mpr ⟨fun hmem => hall link hmem hbefore, hnodup⟩,
        List.cons_subset.mpr ⟨hlink, hsub⟩, by rw [List.length_cons, hlength], fun one hone => ?_⟩
      obtain rfl | hone := List.mem_cons.mp hone
      · exact hfound
      · rw [entity_mono (hall one hone) 1]
        exact hall one hone

/-- **What a link leads to is found within the steps of the program.** -/
theorem entity_steps (hlink : link ∈ p.links) (h : p.entity steps link.1 link.2 ≠ .missing) :
    p.entity p.steps link.1 link.2 = p.entity steps link.1 link.2 := by
  classical
  -- The least number of steps that are enough.
  have hsome : ∃ n, p.entity n link.1 link.2 ≠ .missing := ⟨steps, h⟩
  have hleast := Nat.find_spec hsome
  have hmost : Nat.find hsome ≤ p.steps := by
    cases hn : Nat.find hsome with
    | zero => exact Nat.zero_le _
    | succ n =>
      have hbefore : p.entity n link.1 link.2 = .missing :=
        not_not.mp (Nat.find_min hsome (hn ▸ Nat.lt_succ_self n))
      obtain ⟨all, hnodup, hsub, hlength, -⟩ := exists_links_of_entity hlink (hn ▸ hleast) hbefore
      have hcount := (hnodup.subperm hsub).length_le
      rw [Program.steps]
      omega
  have hsteps := entity_mono hleast (p.steps - Nat.find hsome)
  have hgiven := entity_mono hleast (steps - Nat.find hsome)
  rw [Nat.add_sub_cancel' hmost] at hsteps
  rw [Nat.add_sub_cancel' (Nat.find_min' hsome h)] at hgiven
  rw [hsteps, hgiven]

/-- A link that leads on to another one stands for the same. -/
theorem entity_eq_of_next? (hlink : link ∈ p.links) (hnext : p.next? link = some link')
    (hsame : ∀ steps, p.entity (steps + 1) link.1 link.2 = p.entity steps link'.1 link'.2) :
    p.entity p.steps link.1 link.2 = p.entity p.steps link'.1 link'.2 := by
  have hlink' := mem_links_of_next? hnext hlink
  by_cases h : p.entity p.steps link'.1 link'.2 = .missing
  · rw [h]
    by_contra hfound
    -- What is found for the first one is found for the second one in a step less.
    have hsteps : p.steps = p.links.length + 1 := rfl
    rw [hsteps, hsame] at hfound
    rw [← entity_steps hlink' hfound] at hfound
    exact hfound h
  · rw [← hsame] at h
    rw [entity_steps hlink h, hsame]

/-! ## Names from source to source -/

/-- **A name that goes on to another source**: to the one that it comes from; to where it is handed
over from, maybe under another name; or to where it is brought in from, to be handed out again. -/
inductive Passes (p : Program) : Text × Text → Text × Text → Prop
  | handedOn {path other name : Text} {handed : Handed}
      (h : p.origin? path name = some (other, handed)) : Passes p (path, name) (other, name)
  | handedOver {path other name own moduleName : Text}
      (h : (p.handsOut path).lookup name = some (.elsewhere own moduleName))
      (hmodule : p.moduleAt? path moduleName = some other) : Passes p (path, name) (other, own)
  | broughtIn {path other name inner own moduleName : Text} {site : Site}
      {others : List Declaration} (h : (p.handsOut path).lookup name = some (.own inner))
      (hdeclared : p.declarationsIn path [] inner
        = .imported site (.elsewhere own moduleName) :: others)
      (hothers : others.all Declaration.isImported = true)
      (hmodule : p.moduleAt? path moduleName = some other) : Passes p (path, name) (other, own)

/-- What is handed over from elsewhere stands for the same there. -/
theorem entity_elsewhere {own moduleName : Text}
    (hlink : (path, .elsewhere own moduleName) ∈ p.links)
    (hmodule : p.moduleAt? path moduleName = some other) :
    p.entity p.steps path (.elsewhere own moduleName) = p.exported other own := by
  have hnext : p.next? (path, .elsewhere own moduleName) = p.origin? other own := by
    rw [next?, hmodule, Option.bind_some]
  rw [exported]
  cases horigin : p.origin? other own with
  | none =>
    rw [Program.steps, entity, hmodule, Option.bind_some, horigin]
  | some link' =>
    refine entity_eq_of_next? hlink (hnext.trans horigin) fun steps => ?_
    rw [entity, hmodule, Option.bind_some, horigin]

/-- **A name stands for the same wherever it goes on to.** -/
theorem exported_eq_of_passes {a b : Text × Text} (h : p.Passes a b) :
    p.exported a.1 a.2 = p.exported b.1 b.2 := by
  cases h with
  | handedOn h => rw [exported, exported, h, origin?_of_lookup (lookup_of_originFrom h)]
  | handedOver h hmodule =>
    rw [exported, origin?_of_lookup h]
    exact entity_elsewhere (mem_links_of_lookup h) hmodule
  | @broughtIn path other name inner own moduleName site others h hdeclared hothers hmodule =>
    have hlink : (path, .elsewhere own moduleName) ∈ p.links :=
      mem_links_of_declaration (hdeclared ▸ List.mem_cons_self) List.mem_cons_self
    have hnext : p.next? (path, .own inner) = some (path, .elsewhere own moduleName) := by
      rw [next?, hdeclared]
      simp [hothers]
    rw [exported, origin?_of_lookup h, ← entity_elsewhere hlink hmodule]
    refine entity_eq_of_next? (mem_links_of_lookup h) hnext fun steps => ?_
    rw [entity, hdeclared]
    simp [hothers]

/-- **Along any number of sources** a name stands for the same. -/
theorem exported_eq_of_chain {a b : Text × Text} (h : Relation.ReflTransGen p.Passes a b) :
    p.exported a.1 a.2 = p.exported b.1 b.2 := by
  induction h with
  | refl => rfl
  | tail _ hlast ih => rw [ih, exported_eq_of_passes hlast]

end Turnstile.Source.Program
