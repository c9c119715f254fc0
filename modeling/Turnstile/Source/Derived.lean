import Turnstile.Source.Inference

/-! # Types made from others by a rule

* **`Resolver.conditional`** is one of two types, by whether a type fits another one; of a union, each
  member is looked at by itself.
* **`Resolver.mapped`** is a record with a member for each key of a type.
* **`Resolver.templated`** are the texts of a template of types.

A rule about a type parameter waits until the parameter stands for a type. -/

namespace Turnstile.Source.Resolver

/-- All names that stand for types in a scope, the nearest first. -/
def boundTypes (s : Scope) : List BoundType :=
  s.frames.flatMap fun frame =>
    match frame with
    | .types bound => bound
    | _ => []

/-- A rule that waits for a type parameter, with the text by which it is written. -/
def waiting (s : Scope) (tree : TypeTree) (text : Text) : SourceType :=
  .deferred text s.path tree (boundTypes s)

/-- The types to be found that stand in a written type, looked for as deep as given. -/
def foundNames : (limit : Nat) → TypeTree → List TypeFormal
  | 0, _ => []
  | limit + 1, tree =>
    let inShape (shape : CallShape) : List TypeFormal :=
      (shape.formals.flatMap fun f => f.type.toList.flatMap (foundNames limit))
        ++ shape.result.toList.flatMap (foundNames limit)
    match tree with
    | .found formal => [formal]
    | .name _ _ arguments => arguments.flatMap (foundNames limit)
    | .template _ holes => holes.flatMap (foundNames limit)
    | .array element => foundNames limit element
    | .readonly type => foundNames limit type
    | .tuple items => items.flatMap fun item => foundNames limit item.type
    | .function shape => inShape shape
    | .construct _ shape => inShape shape
    | .record members => members.flatMap fun m =>
      match m with
      | .property _ _ _ _ type => type.toList.flatMap (foundNames limit)
      | .method _ _ _ shape => inShape shape
      | .call shape => inShape shape
      | .construct shape => inShape shape
      | .index _ _ key type => foundNames limit key ++ foundNames limit type
    | .union members => members.flatMap (foundNames limit)
    | .intersection members => members.flatMap (foundNames limit)
    | .indexed container key => foundNames limit container ++ foundNames limit key
    | _ => []

/-- How a choice between two types is written. -/
def conditionalText (r : Resolver) (s : Scope) (checked wanted whenTrue whenFalse : TypeTree) : Text :=
  let names := foundNames 32 wanted
  let said := s.within (.types (names.map fun f => ⟨f.name, .unresolved ("infer " ++ f.name) []⟩))
  let inside := s.within (.types (names.map fun f => ⟨f.name, .parameter (s.home f.site) f.name none⟩))
  let checked := r.type s checked
  SourceType.enclose 2 checked.tightness checked.toText ++ " extends " ++ (r.type said wanted).toText
    ++ " ? " ++ (r.type inside whenTrue).toText ++ " : " ++ (r.type s whenFalse).toText

/-- One of two types, by whether a single type fits another one. -/
def chooseBy (r : Resolver) (s : Scope) (given : SourceType) (tree wanted whenTrue whenFalse : TypeTree)
    (text : Unit → Text) : SourceType :=
  if given.isOpen then waiting s tree (text ())
  else
    let names := foundNames 32 wanted
    let homes := names.map fun f => s.home f.site
    let inner := s.within
      (.types (names.map fun f => ⟨f.name, .parameter (s.home f.site) f.name (f.bound.map (r.type s))⟩))
    let asked := r.type inner wanted
    if given.isAny && !asked.isAny then
      let opened := s.within (.types (names.map fun f => ⟨f.name, .unknown⟩))
      .unionOf s.strict [r.type opened whenTrue, r.type s whenFalse]
    else
      let found := r.findCandidates s homes false given asked
      let types := homes.map fun home =>
        let own := found.filter (·.home = home)
        match own.filter fun c => !c.isTaken with
        | [] => match own with
          | [] => SourceType.unknown
          | several => intersectionOf s.strict (several.map (·.type))
        | several => .unionOf s.strict (several.map (·.type))
      let asked := r.substitute s (homes.zip types) asked
      if r.isFit s given asked then
        r.type (s.within (.types ((names.zip types).map fun (f, type) => ⟨f.name, type⟩))) whenTrue
      else r.type s whenFalse

/-- **One of two types**, by whether a type fits another one. -/
def conditional (r : Resolver) (s : Scope) (checked wanted whenTrue whenFalse : TypeTree) :
    SourceType :=
  let tree := TypeTree.conditional checked wanted whenTrue whenFalse
  let text (_ : Unit) : Text := r.conditionalText s checked wanted whenTrue whenFalse
  let name? : Option Text :=
    match checked with
    | .name _ [name] [] => if (s.boundType? name).isSome then some name else none
    | _ => none
  let given := r.type s checked
  match name? with
  | some name =>
    if given.isLike .never then .never
    else
      match given.alternatives with
      | [_] => r.chooseBy s given tree wanted whenTrue whenFalse text
      | several =>
        .unionOf s.strict (several.map fun one =>
          let inner := s.within (.types [⟨name, one⟩])
          r.chooseBy inner one tree wanted whenTrue whenFalse text)
  | none => r.chooseBy s given tree wanted whenTrue whenFalse text

/-! ## Mapped types -/

/-- What a mapped type says about each of its keys. -/
structure Mapping where
  name : Text
  renamed : Option TypeTree
  optional : Option Bool
  readonly : Option Bool
  type : Option TypeTree

/-- The member of a mapped type for a key, with the property that it is made from, if there is one. -/
def mappedMember (r : Resolver) (s : Scope) (m : Mapping) (source : Option Property)
    (key : SourceType) :
    List MemberType :=
  let inner := s.within (.types [⟨m.name, key⟩])
  let isOptional := m.optional.getD ((source.map (·.isOptional)).getD false)
  let isReadonly := m.readonly.getD ((source.map (·.isReadonly)).getD false)
  let type := (m.type.map (r.type inner)).getD .any
  let type :=
    if isOptional then .orUndefined s.strict type
    else if m.optional = some false && (source.map (·.isOptional)).getD false then
      type.defined s.strict
    else type
  let keys := match m.renamed with
    | some tree => (r.type inner tree).alternatives
    | none => [key]
  keys.filterMap fun key =>
    match key.keyName? with
    | some name => some (.property name isOptional isReadonly type)
    | none =>
      if key.isLike .string || key.isLike .number || key.isLike .symbol then
        some (.index "x" isReadonly key type)
      else none

/-- A type whose members are mapped, which is no union. -/
def mappedSingle (r : Resolver) (s : Scope) (m : Mapping) (source : SourceType) : SourceType :=
  let element (key : SourceType) : SourceType :=
    (m.type.map (r.type (s.within (.types [⟨m.name, key⟩])))).getD .any
  match source.meaning with
  | .array isReadonly _ => .array (m.readonly.getD isReadonly) (element .number)
  | .tuple isReadonly items =>
    .tuple (m.readonly.getD isReadonly) (((List.range items.length).zip items).map fun (place, item) =>
      let type := if item.isRest then element .number
        else element (.literal (.text (Text.ofNat place)) false)
      { item with
        isOptional := m.optional.getD item.isOptional
        type := if item.isRest then .array false type else type })
  | type =>
    if type.isSimple then type
    else if type.isAny then .record [.index "x" false .string (element .string)]
    else
      let shape := r.shape s type
      if !shape.isKnown then .other
      else
        .record ((shape.properties.filter fun p => p.owner.isNone).flatMap (fun p =>
            r.mappedMember s m (some p) (.ofKeyName p.name))
          ++ shape.indexes.flatMap fun index =>
            r.mappedMember s m none index.key)

/-- What a mapped type takes the kinds of its members from, besides its keys. -/
def modelOf? (r : Resolver) (s : Scope) (name : Text) (type : Option TypeTree) : Option SourceType :=
  match type with
  | some (.indexed model (.name _ [key] [])) => if key = name then some (r.type s model) else none
  | _ => none

/-- How a mapped type is written. -/
def mappedText (r : Resolver) (s : Scope) (key : TypeFormal) (m : Mapping) : Text :=
  let inner := s.within (.types [⟨key.name, .parameter (s.home key.site) key.name none⟩])
  let sign (word : Text) : Option Bool → Text
    | none => []
    | some true => word
    | some false => "-" ++ word
  "\x7b " ++ sign "readonly " m.readonly ++ "[" ++ key.name ++ " in "
    ++ ((key.bound.map fun bound => (r.type s bound).toText).getD [])
    ++ ((m.renamed.map fun tree => " as " ++ (r.type inner tree).toText).getD []) ++ "]"
    ++ sign "?" m.optional ++ ": " ++ ((m.type.map fun type => (r.type inner type).toText).getD "any")
    ++ "; \x7d"

/-- **A record with a member for each key of a type.** -/
def mapped (r : Resolver) (s : Scope) (key : TypeFormal) (renamed : Option TypeTree)
    (optional readonly : Option Bool) (type : Option TypeTree) : SourceType :=
  let m : Mapping := ⟨key.name, renamed, optional, readonly, type⟩
  let later (_ : Unit) : SourceType :=
    waiting s (.mapped key renamed optional readonly type) (r.mappedText s key m)
  match key.bound with
  | some (.keysOf source) =>
    let source := r.type s source
    if source.isOpen then later ()
    else .unionOf s.strict (source.alternatives.map (r.mappedSingle s m))
  | some bound =>
    let keys := r.type s bound
    let model := r.modelOf? s key.name type
    if keys.isOpen || keys.alternatives.any SourceType.isOpen || (model.map (·.isOpen)).getD false then
      later ()
    else if keys.isAny then .record [.index "x" false .string ((type.map (r.type s)).getD .any)]
    else
      .record (keys.alternatives.flatMap fun one =>
        let source := (model.bind fun model => one.keyName?.bind fun name => r.property? s name model)
        r.mappedMember s m source one)
  | none => .other

/-! ## Templates -/

/-- The text of a single value in a template. -/
def templateText? (type : SourceType) : Option Text :=
  match type.meaning with
  | .literal (.text value) _ => some value
  | .literal (.number value) _ => some value.toText
  | .literal (.integer value) _ => some (Text.ofInt value)
  | .literal (.boolean value) _ => some (if value then "true" else "false")
  | .enumMember _ _ _ (some (.text value)) _ _ => some value
  | .enumMember _ _ _ (some (.number value)) _ _ => some value.toText
  | .null => some "null"
  | .undefined => some "undefined"
  | _ => none

/-- **The texts of a template of types**: each text with each text of the holes. -/
def templated (strict : Bool) (texts : List Text) (holes : List SourceType) : SourceType :=
  let spelled : Text :=
    let pieces :=
      (texts.zip (holes.map fun hole => ("$\x7b" : Text) ++ hole.toText ++ ("\x7d" : Text))).flatMap
      fun (text, hole) => [text, hole]
    let tick : Text := [0x60]
    tick ++ Text.join [] (pieces ++ texts.drop holes.length) ++ tick
  match holes.mapM fun hole => hole.alternatives.mapM templateText? with
  | some choices =>
    let all := (texts.drop 1).zip choices |>.foldl (fun (done : List Text) (text, choice) =>
      done.flatMap fun start => choice.map fun one => start ++ one ++ text) [texts.headD []]
    .unionOf strict (all.map fun text => .literal (.text text) false)
  | none =>
    if texts.all (·.isEmpty) && holes.length = 1 && holes.all (·.isLike .string) then .string
    else .unresolved spelled []

end Turnstile.Source.Resolver
