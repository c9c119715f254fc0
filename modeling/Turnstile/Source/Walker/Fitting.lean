import Turnstile.Source.Walker.Basic

/-! # Whether code fits what is asked for

* **`Walker.fit`** reports a type that does not fit.
* **`Walker.reportParts`** looks for the parts of an expression that are the reason: items of arrays
  and of records, and what an arrow function gives. -/

namespace Turnstile.Source.Walker

/-- Whether values of a type are told apart by their places. -/
def isTupleLike (r : Resolver) (s : Scope) (type : SourceType) : Bool :=
  match type.meaning with
  | .tuple .. => true
  | .array .. => false
  | .record members => members.any fun m => match m with | .property name .. => name == "0" | _ => false
  | .named home name arguments =>
    let type : SourceType := .named home name arguments
    ((r.shape s type).property? "0").isSome
  | _ => false

/-- The member of a union that a record most likely is meant to be. -/
def likeliest (r : Resolver) (s : Scope) (given : SourceType) (wanted : List SourceType) :
    Option SourceType :=
  let present := wanted.filter fun one => !one.isNothing
  match present with
  | [single] => some single
  | several =>
    let own := (r.shape s given).properties
    let isTold (one : SourceType) : Bool :=
      let shape := r.shape s one
      own.any fun p =>
        match shape.property? p.name with
        | some asked =>
          asked.type.get.alternatives.all SourceType.isUnit && r.isFit s p.type.get asked.type.get
        | none => false
    match several.filter isTold with
    | [single] => some single
    | _ =>
      let overlap (one : SourceType) : Nat :=
        let shape := r.shape s one
        (own.filter fun p => (shape.property? p.name).isSome).length
      let best := (several.map overlap).foldl max 0
      if best = 0 then none else several.find? fun one => overlap one = best

/-- What is asked for under a name, of a union by the member that is most likely meant. -/
def wantedAt? (r : Resolver) (s : Scope) (given wanted : SourceType) (name : Text) :
    Option SourceType :=
  let single (one : SourceType) : Option SourceType :=
    match (r.shape s one).property? name with
    | some p => some p.type.get
    | none => Resolver.indexAt? (r.shape s one) (Resolver.isNumeral name)
  match wanted.meaning with
  | .union members _ =>
    match members.mapM single with
    | some all => some (.unionOf s.strict all)
    | none => (likeliest r s given members).bind single
  | type => single type

/-- Whether an expression is looked into for the reason why it does not fit. -/
def isPrimitiveWanted (wanted : SourceType) : Bool :=
  wanted.isSimple || wanted.isLike .never

/-- **Reports about the parts of an expression that do not fit** what is asked for them; whether
there was any. Parts are looked into as deep as the limit. -/
def reportParts (w : Walker) (place : Place) : (limit : Nat) → Expression →
    (given wanted : SourceType) →
    Walk Bool
  | 0, _, _, _ => return false
  | limit + 1, e, given, wanted => do
    let r := w.resolver
    let s ← Walk.scope place
    let part (site : Site) (value : Option Expression) (given wanted : SourceType) : Walk Bool := do
      if r.isFit s given wanted then return false
      let found ← match value with
        | some e => reportParts w place limit e given wanted
        | none => pure false
      if !found then Walk.report site (r.mismatch s given wanted)
      return true
    match e with
    | .group _ inner => reportParts w place limit inner given wanted
    | .cast inner none => reportParts w place limit inner given wanted
    | .assign _ operator value =>
      if operator == "=" then reportParts w place limit value given wanted else return false
    | .binary _ operator right =>
      if operator == "," then reportParts w place limit right given wanted else return false
    | .record _ items =>
      if isPrimitiveWanted wanted then return false
      let found ← items.mapM fun item => do
        let one (name : MemberName) (value : Option Expression) : Walk Bool := do
          let key? : Option Text ← match name with
            | .known _ name => pure (some name)
            | .computed _ key =>
              SourceType.keyName? <$> Walk.aside (w.expression place none key)
          match key? with
          | none => return false
          | some key =>
            match r.propertyType? s key given, wantedAt? r s given wanted key with
            | some own, some asked => part name.site value own asked
            | _, _ => return false
        match item with
        | .property name value => one name (some value)
        | .short site name _ => one (.known site name) none
        | .method name _ => one name none
        | .spread _ => return false
      return found.any id
    | .array _ elements =>
      if isPrimitiveWanted wanted then return false
      let isTuple := wanted.alternatives.any (isTupleLike r s)
      let found ← ((List.range elements.length).zip elements).mapM fun (number, element) => do
        match element with
        | .hole _ => return false
        | .spread .. => return false
        | element =>
          let key := Text.ofNat number
          let asked? : Option SourceType :=
            match wanted.meaning with
            | .array _ element => some element
            | .tuple .. =>
              match r.elementAt? s wanted (.literal (.number (.ofNat number)) false) with
              | some type => some type
              | none => none
            | wanted => wantedAt? r s given wanted key
          match asked? with
          | some asked =>
            if isTuple && (r.property? s key wanted).isNone then return false
            let own ← Walk.aside (w.expression place (some asked) element)
            part element.bare.site (some element) own asked
          | none => return false
      return found.any id
    | .function tree =>
      match tree.kind, tree.body with
      | .arrow, .value body =>
        if tree.binders.any fun b => b.formal.type.isSome then return false
        match r.callsOf s given, r.callsOf s wanted with
        | [own], first :: rest =>
          let result : SourceType := .unionOf s.strict ((first :: rest).map (·.result))
          if r.isFit s own.result result then return false
          let isDone ← reportParts w place limit body own.result result
          if !isDone then Walk.report body.site (r.mismatch s own.result result)
          return true
        | _, _ => return false
      | _, _ => return false
    | _ => return false

/-- **A report if a type does not fit**, at the parts that are the reason or else at a site. -/
def fit (w : Walker) (place : Place) (site : Site) (e : Option Expression) (given wanted : SourceType) :
    Walk Unit := do
  let s ← Walk.scope place
  if w.resolver.isFit s given wanted then return
  let reported ← match e with
    | some e => w.reportParts place w.resolver.limit e given wanted
    | none => pure false
  if !reported then Walk.report site (w.resolver.mismatch s given wanted)

/-- A report if an argument does not fit; whether it does. -/
def fitArgument (w : Walker) (place : Place) (e : Expression) (given wanted : SourceType) :
    Walk Bool := do
  let s ← Walk.scope place
  if w.resolver.isFit s given wanted then return true
  if !(← w.reportParts place w.resolver.limit e given wanted) then
    Walk.report e.bare.site (w.resolver.argumentMismatch s given wanted)
  return false

end Turnstile.Source.Walker
