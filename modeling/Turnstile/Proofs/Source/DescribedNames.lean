import Mathlib.Data.List.Induction
import Mathlib.Data.List.Nodup
import Turnstile.Source.Described

/-! # The names of described functions

A source hands out every name at most once, and a function is described under the name by which it
is handed out. So no two signatures of a source have the same name.

* **`Program.nodup_exportedNames`** is about the names that a source hands out.
* **`Program.name_of_signature?`** is about one of them, and **`Program.nodup_signatures`** about
  all that are described. -/

namespace Turnstile.Source

/-- Without what came before, nothing is there twice. -/
theorem nodup_eraseDups {α : Type} [BEq α] [LawfulBEq α] (l : List α) : l.eraseDups.Nodup := by
  induction l using List.reverseRecOn with
  | nil =>
    rw [List.eraseDups_nil]
    exact List.nodup_nil
  | append_singleton l a ih =>
    rw [List.eraseDups_append]
    by_cases ha : a ∈ l
    · have hnone : [a].removeAll l = [] := by simp [List.removeAll, ha]
      rwa [hnone, List.eraseDups_nil, List.append_nil]
    · have hnew : [a].removeAll l = [a] := by simp [List.removeAll, ha]
      rw [hnew, List.nodup_append]
      refine ⟨ih, by simp [List.eraseDups_cons], ?_⟩
      rintro b hb c hc rfl
      rw [List.mem_eraseDups] at hb hc
      exact ha (List.mem_singleton.mp hc ▸ hb)

/-- A way to be called is described under the name that is given. -/
theorem CallType.name_describe (name : Text) (call : CallType) (order : List Text) :
    ((call.describe name).run order).1.name = name := rfl

namespace Program

/-- **A source hands out every name at most once.** -/
theorem nodup_exportedNames (p : Program) (path : Text) : (p.exportedNames path).Nodup := by
  rw [exportedNames, namesFrom]
  split
  · exact List.nodup_nil
  · exact nodup_eraseDups _

/-- What is handed out under a name is described under it. -/
theorem name_of_signature? {p : Program} {walked : Walked} {path name : Text} {order : List Text}
    {signature : Signature}
    (h : ((p.signature? walked path name).run order).1 = some signature) :
    signature.name = name := by
  rw [signature?] at h
  split at h
  · next call _ =>
    have hsome : some ((call.describe name).run order).1 = some signature := h
    rw [← Option.some.inj hsome]
    exact CallType.name_describe name call order
  · exact absurd h nofun

/-- The names of what is described are some of the names that are handed out, in their order. -/
theorem sublist_of_mapM (p : Program) (walked : Walked) (path : Text) (names order : List Text) :
    ((((names.mapM (p.signature? walked path)).run order).1.filterMap id).map (·.name)).Sublist
      names := by
  induction names generalizing order with
  | nil => exact List.Sublist.slnil
  | cons name names ih =>
    have hrest := ih ((p.signature? walked path name).run order).2
    -- The first name is described before the others, or it is left out.
    have hcons : ((((name :: names).mapM (p.signature? walked path)).run order).1.filterMap id)
        = ([((p.signature? walked path name).run order).1].filterMap id)
          ++ ((names.mapM (p.signature? walked path)).run
              ((p.signature? walked path name).run order).2).1.filterMap id := by
      rw [← List.filterMap_append, List.mapM_cons]
      rfl
    rw [hcons]
    cases hfirst : ((p.signature? walked path name).run order).1 with
    | none => exact hrest.cons name
    | some signature =>
      obtain rfl : signature.name = name := name_of_signature? hfirst
      exact hrest.cons_cons signature.name

/-- **No two signatures of a source have the same name.** -/
theorem nodup_signatures {p : Program} {path : Text} {signatures : List Signature}
    (h : p.signatures path = some signatures) : (signatures.map (·.name)).Nodup := by
  obtain ⟨source, -, rfl⟩ := Option.map_eq_some_iff.mp h
  exact (nodup_exportedNames p path).sublist (sublist_of_mapM p p.walked path _ [])

end Program

end Turnstile.Source
