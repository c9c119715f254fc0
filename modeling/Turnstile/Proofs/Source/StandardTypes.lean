import Turnstile.Proofs.Source.Reading
import Turnstile.Proofs.Text.Repair
import Turnstile.Source.Scope

/-! # Standard types

What is always there under the names of some types.

* **`Standard.exists_named`**: what is there under a name is what the first piece of that name
  declares, and what others of it do. No other piece has to be read.
* **`Standard.IsInterface`**: under a name an interface is there, with a number of type parameters.
  Only the heading of its piece has to be read.
* **`Standard.exists_named_bufferLike`**: the alias of two buffers is there. -/

namespace Turnstile

theorem Text.ofString_injective : Function.Injective Text.ofString := by
  intro a b h
  have hchars : a.toList = b.toList := by
    rw [← Text.toChars_ofChars a.toList, ← Text.toChars_ofChars b.toList]
    exact congrArg Text.toChars h
  exact String.toList_inj.mp hchars

namespace Source

namespace Standard

/-! ## Pieces by their names -/

/-- **What pieces declare under the name of one of them**, before which no other one has that name. -/
theorem exists_declarationsOf {pieces : List Piece} {place : Nat} {piece : Piece}
    (hplace : pieces[place]? = some piece)
    (hbefore : (pieces.take place).all (fun other => other.name != piece.name) = true) (offset : Nat) :
    ∃ start more, ((declarationsOf offset pieces).filter (·.1 = Text.ofString piece.name)).map (·.2)
      = piece.declarations start ++ more := by
  induction pieces generalizing place offset with
  | nil => exact absurd hplace nofun
  | cons first rest ih =>
    rw [declarationsOf, List.filter_append, List.map_append]
    cases place with
    | zero =>
      obtain rfl : first = piece := Option.some.inj hplace
      refine ⟨offset, _, congrArg (· ++ _) ?_⟩
      rw [List.filter_eq_self.mpr, List.map_map]
      · exact List.map_id _
      · intro item hitem
        obtain ⟨d, -, rfl⟩ := List.mem_map.mp hitem
        exact decide_eq_true rfl
    | succ place =>
      obtain ⟨hfirst, hrest⟩ := Bool.and_eq_true_iff.mp hbefore
      have hne : Text.ofString first.name ≠ Text.ofString piece.name :=
        fun heq => bne_iff_ne.mp hfirst (Text.ofString_injective heq)
      obtain ⟨start, more, heq⟩ := ih hplace hrest (offset + first.text.length)
      refine ⟨start, more, ?_⟩
      rw [heq, List.filter_eq_nil_iff.mpr, List.map_nil, List.nil_append]
      intro item hitem
      obtain ⟨d, -, rfl⟩ := List.mem_map.mp hitem
      exact fun h => hne (of_decide_eq_true h)

/-- **What is there under the name of a piece** starts with what the piece declares. -/
theorem exists_named {own : String} {place : Nat} {piece : Piece} {wanted : Declaration → Prop}
    (hplace : allPieces[place]? = some piece) (hown : piece.name = own)
    (hbefore : (allPieces.take place).all (fun other => other.name != own) = true)
    (hdeclares : ∀ offset, ∃ first more, piece.declarations offset = first :: more ∧ wanted first)
    (options : CheckOptions) :
    ∃ first more, named options (Text.ofString own) = first :: more ∧ wanted first := by
  subst hown
  obtain ⟨start, more, heq⟩ := exists_declarationsOf hplace hbefore 1
  obtain ⟨first, others, hpiece, hfirst⟩ := hdeclares start
  refine ⟨first, others ++ more, ?_, hfirst⟩
  rw [named, declarations, heq, hpiece]
  rfl

/-- A statement declares its one name in front of what others do. -/
theorem declarations_cons {s : Statement} {name : Text} {d : Declaration} (h : s.declared = [(name, d)])
    (more : List Statement) :
    SourceTree.declarations (s :: more) name = d :: SourceTree.declarations more name := by
  simp [SourceTree.declarations, h]

/-! ## Interfaces by their headings -/

section

variable {limit : Nat} {formals : List TypeFormal} {braceSite : Site} {rest tail : List Token}
  (name : Text) (site nameSite : Site)

/-- **An interface is read from its heading on**, whatever stands in its braces. -/
theorem exists_interfaceStatement
    (hformals : Reader.typeFormals (Reader.typeTree limit) limit rest
      = some (formals, ⟨.mark "\x7b", braceSite, false⟩ :: tail)) :
    ∃ members more, Reader.interfaceStatement limit default
        (⟨.word "interface", site, true⟩ :: ⟨.word name, nameSite, false⟩ :: rest)
      = some (.interface default nameSite name formals [] members, more) := by
  let items : Reader (List TypeMember) := do
    let _ ← Reader.mark "\x7b"
    Reader.itemsUntil "\x7d" [";", ","] (Reader.typeMember (Reader.typeTree limit) limit) limit
  have hmembers : ∃ members more,
      (items <|> (do Reader.braces; return [])) (⟨.mark "\x7b", braceSite, false⟩ :: tail)
        = some (members, more) := by
    cases hfound : items (⟨.mark "\x7b", braceSite, false⟩ :: tail) with
    | some found => exact ⟨found.1, found.2, Reader.orElse_eq_of_some hfound⟩
    | none => exact ⟨[], Reader.skipBraces 0 tail, Reader.orElse_eq_of_none hfound⟩
  obtain ⟨members, more, hmembers⟩ := hmembers
  refine ⟨members, more, ?_⟩
  rw [Reader.interfaceStatement, Reader.bind_eq_of_some rfl,
    Reader.bind_eq_of_some (a := (name, nameSite)) rfl]
  simp only []
  rw [Reader.bind_eq_of_some hformals, Reader.bind_eq_of_some (a := []) rfl,
    Reader.bind_eq_of_some hmembers]
  rfl

/-- A statement that starts with the heading of an interface is the interface. -/
theorem exists_wholeStatement_interface (e : Reader Expression) (statement : Reader Statement)
    (hformals : Reader.typeFormals (Reader.typeTree limit) limit rest
      = some (formals, ⟨.mark "\x7b", braceSite, false⟩ :: tail)) :
    ∃ members more, Reader.wholeStatement e statement limit
        (⟨.word "interface", site, true⟩ :: ⟨.word name, nameSite, false⟩ :: rest)
      = some (.interface default nameSite name formals [] members, more) := by
  let tokens : List Token := ⟨.word "interface", site, true⟩ :: ⟨.word name, nameSite, false⟩ :: rest
  obtain ⟨members, more, hinterface⟩ :
      ∃ members more, Reader.interfaceStatement limit default tokens = some (_, more) :=
    exists_interfaceStatement name site nameSite hformals
  have hdecorators : Reader.decorators e limit tokens = some ([], tokens) := by cases limit <;> rfl
  have hmodifiers : Reader.modifiers limit tokens = some (default, tokens) := by cases limit <;> rfl
  refine ⟨members, more, ?_⟩
  rw [Reader.wholeStatement, Reader.orElse_eq_of_none rfl, Reader.orElse_eq_of_none rfl,
    Reader.orElse_eq_of_none rfl,
    Reader.orElse_eq_of_none rfl]
  refine Reader.orElse_eq_of_some ?_
  rw [Reader.declaration, Reader.bind_eq_of_some rfl, Reader.bind_eq_of_some hdecorators,
    Reader.bind_eq_of_some hmodifiers, Reader.bind_eq_of_some hdecorators, Reader.orElse_eq_of_none rfl,
    Reader.orElse_eq_of_none rfl]
  exact Reader.orElse_eq_of_some hinterface

/-- Statements that start with the heading of an interface start with the interface. -/
theorem exists_statements_interface
    (hformals : Reader.typeFormals (Reader.typeTree (rest.length + 2)) (rest.length + 2) rest
      = some (formals, ⟨.mark "\x7b", braceSite, false⟩ :: tail)) :
    ∃ members more, Reader.statements (rest.length + 2)
        (⟨.word "interface", site, true⟩ :: ⟨.word name, nameSite, false⟩ :: rest)
      = .interface default nameSite name formals [] members :: more := by
  obtain ⟨members, more, hwhole⟩ := exists_wholeStatement_interface name site nameSite
    (Reader.expression (rest.length + 2)) (Reader.statement (rest.length + 2)) hformals
  have hstatement : Reader.statement (rest.length + 3)
      (⟨.word "interface", site, true⟩ :: ⟨.word name, nameSite, false⟩ :: rest) = some (_, more) :=
        hwhole
  refine ⟨members, Reader.statements (rest.length + 1) more, ?_⟩
  rw [Reader.statements, List.length_cons, List.length_cons, hstatement]

end

/-- **A heading has a number of type parameters**: it is cut into lexemes, and tokens with these are
read as the type parameters. -/
structure HasFormals (heading : String) (lexemes : List Lexeme) (count : Nat) : Prop where
  ends : ∀ last, EndsName (Text.ofString heading ++ 0x20 :: last)
  cut : ∀ {last rest behind}, Cut last (0x20 :: rest) behind →
    Cut last (Text.ofString heading ++ 0x20 :: rest) (lexemes ++ behind)
  reads : ∀ limit front site tail, InLine front lexemes → front.length < limit →
    ∃ formals, Reader.typeFormals (Reader.typeTree limit) limit
      (front ++ ⟨.mark "\x7b", site, false⟩ :: tail)
        = some (formals, ⟨.mark "\x7b", site, false⟩ :: tail)
      ∧ formals.length = count

/-- **An interface is declared by the heading of its piece.** -/
theorem exists_declarations_interface {own heading : String} {lexemes : List Lexeme} {count : Nat}
    (hname : isName (Text.ofString own) = true) (h : HasFormals heading lexemes count)
    (members : List String)
    (offset : Nat) :
    ∃ first more, (Piece.interface own heading members).declarations offset = first :: more
      ∧ ∃ nameSite formals members, first = .interface nameSite formals [] members
        ∧ formals.length = count := by
  let last : Text := 0x20 :: (Text.join "; " (members.map Text.ofString) ++ (" \x7d" : Text))
  have htext : (Piece.interface own heading members).text
      = ("interface" : Text)
      ++ (0x20 :: (Text.ofString own ++ (Text.ofString heading ++ 0x20 :: 0x7B :: last))) := by
    rw [Piece.interface]
    simp only [List.append_assoc]
    rfl
  have hbraces : Cut last (0x20 :: 0x7B :: last) [.mark "\x7b"] := .blank (.plainMark (by decide) .nil)
  have hall : Cut last (0x20 :: (Text.ofString own ++ (Text.ofString heading ++ 0x20 :: 0x7B :: last)))
      (.word (Text.ofString own) :: (lexemes ++ [.mark "\x7b"])) :=
        .blank (.name _ hname (h.ends _) (h.cut hbraces))
  have hword : isName ("interface" : Text) = true := by decide
  obtain ⟨behind, tail, htokens, hinLine, -⟩ :=
    exists_tokensOf hword (endsName_cons (by decide) _) hall ⟨offset, 1⟩
  obtain ⟨nameSite, front, braceSite, rfl, hfront⟩ : ∃ nameSite front braceSite,
      behind = ⟨.word (Text.ofString own), nameSite, false⟩
        :: (front ++ [⟨.mark "\x7b", braceSite, false⟩])
        ∧ InLine front lexemes := by
    obtain ⟨nameSite, behind, rfl, hbehind⟩ := hinLine.exists_cons
    obtain ⟨front, last, rfl, hfront, hlast⟩ := hbehind.exists_append
    obtain ⟨braceSite, last, rfl, hnil⟩ := hlast.exists_cons
    cases hnil
    exact ⟨nameSite, front, braceSite, rfl, hfront⟩
  obtain ⟨formals, hformals, hcount⟩ :=
    h.reads ((front ++ ⟨.mark "\x7b", braceSite, false⟩ :: tail).length + 2)
    front braceSite tail hfront (by rw [List.length_append]; omega)
  obtain ⟨members', more, hstatements⟩ :=
    exists_statements_interface (Text.ofString own) ⟨offset, 1⟩ nameSite hformals
  have hlist :
      (⟨.word (Text.ofString own), nameSite, false⟩
        :: (front ++ [⟨.mark "\x7b", braceSite, false⟩])) ++ tail
      = ⟨.word (Text.ofString own), nameSite, false⟩
      :: (front ++ ⟨.mark "\x7b", braceSite, false⟩ :: tail) := by
    rw [List.cons_append, List.append_assoc]
    rfl
  rw [Piece.declarations, htext, htokens, hlist]
  simp only [List.length_cons]
  rw [hstatements]
  exact ⟨_, _, declarations_cons rfl more, nameSite, formals, members', rfl, hcount⟩

/-! ## The types that hold numbers -/

/-- **Under a name an interface is there**, with a number of type parameters. -/
def IsInterface (name : Text) (count : Nat) : Prop :=
  ∀ options, ∃ first more, named options name = first :: more
    ∧ ∃ site formals members, first = .interface site formals [] members ∧ formals.length = count

theorem hasFormals_none : HasFormals "" [] 0 where
  ends := fun last => endsName_cons (by decide) _
  cut := fun h => h
  reads := by
    intro limit front site tail hfront hlimit
    cases hfront
    exact ⟨[], rfl, rfl⟩

theorem hasFormals_element : HasFormals "<T>" [.mark "<", .word "T", .mark ">"] 1 where
  ends := fun last => endsName_cons (by decide) _
  cut := fun h => .cons (fun _ => rfl) rfl (Nat.lt_succ_self _)
    (.name "T" (by decide) (endsName_cons (by decide) _)
    (.plainMark (by decide) h))
  reads := by
    intro limit front site tail hfront hlimit
    obtain ⟨_, front, rfl, h₁⟩ := hfront.exists_cons
    obtain ⟨_, front, rfl, h₂⟩ := h₁.exists_cons
    obtain ⟨_, front, rfl, h₃⟩ := h₂.exists_cons
    cases h₃
    obtain ⟨limit, rfl⟩ : ∃ k, limit = k + 4 := Nat.exists_eq_add_of_le' hlimit
    exact ⟨_, rfl, rfl⟩

theorem hasFormals_buffer : HasFormals "<TArrayBuffer extends ArrayBufferLike = ArrayBufferLike>"
    [.mark "<", .word "TArrayBuffer", .word "extends", .word "ArrayBufferLike", .mark "=",
      .word "ArrayBufferLike",
      .mark ">"] 1 where
  ends := fun last => endsName_cons (by decide) _
  cut := by
    intro last rest behind h
    have hlast := Cut.name "ArrayBufferLike" (by decide) (endsName_cons (u := 0x3E) (by decide) _)
      (.plainMark (by decide) h)
    have hbound := Cut.name "ArrayBufferLike" (by decide) (endsName_cons (u := 0x20) (by decide) _)
      (.blank (.inBlanks (u := 0x3D) (by decide) (.blank hlast)))
    have hextends :=
      Cut.name "extends" (by decide) (endsName_cons (u := 0x20) (by decide) _) (.blank hbound)
    have hname :=
      Cut.name "TArrayBuffer" (by decide) (endsName_cons (u := 0x20) (by decide) _) (.blank hextends)
    exact .cons (fun _ => rfl) rfl (Nat.lt_succ_self _) hname
  reads := by
    intro limit front site tail hfront hlimit
    obtain ⟨_, front, rfl, h₁⟩ := hfront.exists_cons
    obtain ⟨_, front, rfl, h₂⟩ := h₁.exists_cons
    obtain ⟨_, front, rfl, h₃⟩ := h₂.exists_cons
    obtain ⟨_, front, rfl, h₄⟩ := h₃.exists_cons
    obtain ⟨_, front, rfl, h₅⟩ := h₄.exists_cons
    obtain ⟨_, front, rfl, h₆⟩ := h₅.exists_cons
    obtain ⟨_, front, rfl, h₇⟩ := h₆.exists_cons
    cases h₇
    obtain ⟨limit, rfl⟩ : ∃ k, limit = k + 8 := Nat.exists_eq_add_of_le' hlimit
    exact ⟨_, rfl, rfl⟩

/-- **An interface is there under a name** where its piece is the first of that name. -/
theorem isInterface_of {own heading : String} {lexemes : List Lexeme} {count : Nat} (place : Nat)
    (hplace : ∃ members, allPieces[place]? = some (.interface own heading members))
    (hbefore : (allPieces.take place).all (fun other => other.name != own) = true)
    (hname : isName (Text.ofString own) = true) (h : HasFormals heading lexemes count) :
    IsInterface (Text.ofString own) count := by
  obtain ⟨members, hplace⟩ := hplace
  intro options
  exact exists_named hplace rfl hbefore (exists_declarations_interface hname h members) options

theorem isInterface_arrayLike : IsInterface "ArrayLike" 1 :=
  isInterface_of 61 ⟨_, rfl⟩ (by decide +kernel) (by decide) hasFormals_element

theorem isInterface_integers : IsInterface "Int32Array" 1 :=
  isInterface_of 123 ⟨_, rfl⟩ (by decide +kernel) (by decide) hasFormals_buffer

theorem isInterface_buffer : IsInterface "ArrayBuffer" 0 :=
  isInterface_of 97 ⟨_, rfl⟩ (by decide +kernel) (by decide) hasFormals_none

theorem isInterface_sharedBuffer : IsInterface "SharedArrayBuffer" 0 :=
  isInterface_of 98 ⟨_, rfl⟩ (by decide +kernel) (by decide) hasFormals_none

/-! ## The buffers they stand on -/

/-- The alias of the two buffers is read. -/
theorem statements_bufferLike (typeSite nameSite equals buffer bar shared ending : Site) :
    Reader.statements 7
        [⟨.word "type", typeSite, true⟩, ⟨.word "ArrayBufferLike", nameSite, false⟩,
          ⟨.mark "=", equals, false⟩,
          ⟨.word "ArrayBuffer", buffer, false⟩, ⟨.mark "|", bar, false⟩,
          ⟨.word "SharedArrayBuffer", shared, false⟩,
          ⟨.mark ";", ending, false⟩]
      = [.alias default nameSite "ArrayBufferLike" []
          (.union [.name buffer ["ArrayBuffer"] [], .name shared ["SharedArrayBuffer"] []])] := rfl

/-- **The alias of the two buffers is declared.** -/
theorem exists_declarations_bufferLike (offset : Nat) :
    ∃ site buffer shared,
      (Piece.synonym "ArrayBufferLike" "" "ArrayBuffer | SharedArrayBuffer").declarations offset
        = [.alias site []
          (.union [.name buffer ["ArrayBuffer"] [], .name shared ["SharedArrayBuffer"] []])] := by
  have hshared := Cut.name "SharedArrayBuffer" (by decide) (endsName_cons (u := 0x3B) (by decide) _)
    (.plainMark (by decide) (.nil : Cut [] [] []))
  have hbuffer := Cut.name "ArrayBuffer" (by decide) (endsName_cons (u := 0x20) (by decide) _)
    (.blank (.inBlanks (u := 0x7C) (by decide) (.blank hshared)))
  have hname := Cut.name "ArrayBufferLike" (by decide) (endsName_cons (u := 0x20) (by decide) _)
    (.blank (.inBlanks (u := 0x3D) (by decide) (.blank hbuffer)))
  have hword : isName ("type" : Text) = true := by decide
  obtain ⟨behind, tail, htokens, h₀, htail⟩ :=
    exists_tokensOf hword (endsName_cons (u := 0x20) (by decide) _) (.blank hname) ⟨offset, 1⟩
  obtain rfl := htail rfl
  obtain ⟨nameSite, front, rfl, h₁⟩ := h₀.exists_cons
  obtain ⟨equals, front, rfl, h₂⟩ := h₁.exists_cons
  obtain ⟨buffer, front, rfl, h₃⟩ := h₂.exists_cons
  obtain ⟨bar, front, rfl, h₄⟩ := h₃.exists_cons
  obtain ⟨shared, front, rfl, h₅⟩ := h₄.exists_cons
  obtain ⟨ending, front, rfl, h₆⟩ := h₅.exists_cons
  cases h₆
  have hstatements := statements_bufferLike ⟨offset, 1⟩ nameSite equals buffer bar shared ending
  refine ⟨nameSite, buffer, shared, ?_⟩
  have hread : Reader.statements 7 (tokensOf true (pieces ⟨offset, 1⟩
      (Piece.synonym "ArrayBufferLike" "" "ArrayBuffer | SharedArrayBuffer").text)) = _ :=
    (congrArg (Reader.statements 7) htokens).trans hstatements
  have hlength : (tokensOf true (pieces ⟨offset, 1⟩
      (Piece.synonym "ArrayBufferLike" "" "ArrayBuffer | SharedArrayBuffer").text)).length = 7 :=
    congrArg List.length htokens
  rw [Piece.declarations, hlength, hread]
  exact declarations_cons rfl []

/-- What the alias of the two buffers declares. -/
def IsBufferLike (d : Declaration) : Prop :=
  ∃ site buffer shared,
    d = .alias site [] (.union [.name buffer ["ArrayBuffer"] [], .name shared ["SharedArrayBuffer"] []])

/-- **The alias of the two buffers is there** under its name. -/
theorem exists_named_bufferLike (options : CheckOptions) :
    ∃ first more, named options "ArrayBufferLike" = first :: more ∧ IsBufferLike first := by
  have hdeclares : ∀ offset, ∃ first more,
      (Piece.synonym "ArrayBufferLike" "" "ArrayBuffer | SharedArrayBuffer").declarations offset
        = first :: more
        ∧ IsBufferLike first := by
    intro offset
    obtain ⟨site, buffer, shared, heq⟩ := exists_declarations_bufferLike offset
    exact ⟨_, [], heq, site, buffer, shared, rfl⟩
  have hplace :
      allPieces[99]? = some (.synonym "ArrayBufferLike" "" "ArrayBuffer | SharedArrayBuffer") := rfl
  exact exists_named hplace rfl (by decide +kernel) hdeclares options

end Standard

end Source

end Turnstile
