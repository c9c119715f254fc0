import Turnstile.Source.Walker.Statement

/-! # The walker

* **`Walker.ofLimit`** is the walker for code that is nested as deep as a limit.
* **`Program.walked`** walks over all sources of a program: those that are brought in before those that
  bring them in, so that the types of what they hand out are known. -/

namespace Turnstile.Source

namespace Walker

/-- A resolver that walks over code by a walker, and keeps nothing but its type. -/
def deeperResolver (w : Walker) : Resolver where
  limit := w.resolver.limit + 1
  type := w.resolver.meaningOf
  expression := fun s wanted e => (w.expression (.ofScope s) wanted e (.start s.values)).1
  function := fun s wanted tree => (w.function (.ofScope s) wanted tree (.start s.values)).1

/-- **The walker** for code that is nested as deep as the limit. -/
def ofLimit : (limit : Nat) → Walker
  | 0 =>
    { resolver :=
        { limit := 0
          type := fun _ _ => .other
          expression := fun _ _ _ => .other
          function := fun _ _ _ => .giving .other }
      expression := fun _ _ _ => return .other
      chain := fun _ _ _ => return (.other, false)
      condition := fun _ _ _ => return ⟨.other, ← Walk.flow, ← Walk.flow⟩
      function := fun _ _ _ => return .giving .other
      classBody := fun _ _ => pure ()
      statement := fun _ _ => pure () }
  | limit + 1 =>
    let w := ofLimit limit
    { resolver := w.deeperResolver
      expression := w.wholeExpression
      chain := w.wholeChain
      condition := w.wholeCondition
      function := w.wholeFunction
      classBody := w.wholeClass
      statement := w.wholeStatement }

end Walker

/-- What is found in the sources of a program. -/
structure Program.Walked where
  /-- The walker that is enough for the program. -/
  walker : Walker
  findings : List (Text × Findings)
  /-- The types of the values that the sources themselves declare. -/
  values : List (Home × SourceType)

namespace Program

/-- The offsets of the names that a source itself declares. -/
def ownOffsets (source : SourceTree) : List Nat :=
  source.statements.flatMap fun s => s.declared.map fun (_, d) => d.site.offset

/-- One more source walked over, with the values of those before. -/
def walkSource (p : Program) (done : Walked) (path : Text) (source : SourceTree) : Walked :=
  if onlyDeclares path then done
  else
    let place := Place.ofScope { Scope.ofSource p path with values := done.values }
    let found := (done.walker.block place source.statements (.start done.values)).2
    let offsets := ownOffsets source
    let own := found.values.filter fun (home, _) => home.path = path && offsets.contains home.offset
    { done with
      findings := (path, found) :: done.findings
      values := own ++ done.values }

/-- **All sources of a program walked over.** -/
def walked (p : Program) : Walked :=
  p.sources.foldr (fun (path, source) done => p.walkSource done path source)
    ⟨Walker.ofLimit (4 * p.size + 64), [], []⟩

end Program

end Turnstile.Source
