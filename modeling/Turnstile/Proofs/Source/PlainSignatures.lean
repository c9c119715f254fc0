import Turnstile.Proofs.Source.PlainTypesRead
import Turnstile.Source.Reader.Statements

/-! # Plain signatures

Signatures of plain types, as the line that declares such a function.

* **`PlainSignature.signature`** is what is said about a function, and **`declarationLine`** its line.
* **`exists_tokens_declarationLine`**: the line is cut into **`PlainSignature.lexemes`**.
* **`PlainSignature.Declares`** says which trees declare the function.
* **`exists_ofText_declarationLine`**: the line is read as one statement, with such a tree. -/

namespace Turnstile.Source

/-- Whether a name can be that of a function or of a parameter. -/
def isOrdinary (name : Text) : Bool := isName name && !Reader.reserved.contains name

/-- **A parameter of a plain type** that is written as it stands. -/
structure PlainParameter (strict : Bool) where
  name : Text
  type : PlainType
  isOptional : Bool
  isRest : Bool
  isOrdinary_name : isOrdinary name = true
  isNormal_type : type.isNormal strict = true

/-- **A signature of plain types** that are written as they stand. -/
structure PlainSignature (strict : Bool) where
  name : Text
  parameters : List (PlainParameter strict)
  result : PlainType
  isOrdinary_name : isOrdinary name = true
  isNormal_result : result.isNormal strict = true

variable {strict : Bool}

/-- What is said about a parameter. -/
def PlainParameter.parameter (p : PlainParameter strict) : Parameter :=
  let type := (p.type.type strict).toText
  { name := p.name
    type
    kind := .ofType (if p.isRest then elementType type else type)
    isOptional := p.isRest || p.isOptional
    isRest := p.isRest }

/-- What is said about a function. -/
def PlainSignature.signature (s : PlainSignature strict) : Signature :=
  let result := (s.result.type strict).toText
  { name := s.name
    parameters := s.parameters.map PlainParameter.parameter
    resultType := result
    resultKind := .ofType result }

/-- A signature as the declaration of a function that is handed out. -/
def declarationLine (s : Signature) : Text :=
  ("export declare function " : Text) ++ s.toText ++ (";" : Text)

theorem isName_of_isOrdinary {name : Text} (h : isOrdinary name = true) : isName name = true :=
  (Bool.and_eq_true_iff.mp h).1

/-! ## Declarations cut into lexemes -/

/-- The lexemes that a parameter is written by. -/
def PlainParameter.lexemes (p : PlainParameter strict) : List Lexeme :=
  (if p.isRest then [.mark "..."] else []) ++ .word p.name
    :: ((if p.isOptional && !p.isRest then [.mark "?"] else []) ++ .mark ":" :: p.type.lexemes)

/-- The lexemes of parameters and of the mark behind them. -/
def PlainSignature.formals (s : PlainSignature strict) : List Lexeme :=
  Reader.listed "," ")" (s.parameters.map PlainParameter.lexemes)

/-- The lexemes that the declaration of a function is written by, from its keyword on. -/
def PlainSignature.lexemes (s : PlainSignature strict) : List Lexeme :=
  .word "function" :: .word s.name :: .mark "(" :: (s.formals ++ .mark ":" :: s.result.lexemes)

/-- A parameter starts with its name, or with dots in front of it. -/
theorem PlainParameter.head_ne_mark (p : PlainParameter strict) {spelling : Text} (h : spelling ≠ "...")
    (behind : List Lexeme) : (p.lexemes ++ behind).head? ≠ some (.mark spelling) := by
  rw [PlainParameter.lexemes]
  cases p.isRest with
  | true => exact head_cons_ne fun heq => h (Lexeme.mark.inj heq).symm
  | false => exact head_cons_ne (by rintro ⟨⟩)

/-- The type of a parameter is written by some of its lexemes. -/
theorem PlainParameter.length_type_lt (p : PlainParameter strict) :
    p.type.lexemes.length < p.lexemes.length := by
  rw [PlainParameter.lexemes, List.length_append, List.length_cons,
    List.length_append, List.length_cons]
  omega

/-- The parameters of a signature, and the type of each of them, are written by some of its lexemes. -/
theorem PlainSignature.length_formals (s : PlainSignature strict) :
    s.parameters.length ≤ s.formals.length
      ∧ ∀ p ∈ s.parameters, p.type.lexemes.length < s.formals.length := by
  obtain ⟨hcount, hlengths⟩ : _ ≤ s.formals.length ∧ ∀ item ∈ _, _ < s.formals.length :=
    Reader.length_le_listed (s.parameters.map PlainParameter.lexemes)
  rw [List.length_map] at hcount
  exact ⟨hcount, fun p hp => p.length_type_lt.trans (hlengths _ (List.mem_map_of_mem hp))⟩

theorem PlainSignature.length_lexemes (s : PlainSignature strict) :
    s.lexemes.length = s.formals.length + s.result.lexemes.length + 4 := by
  rw [PlainSignature.lexemes]
  simp only [List.length_cons, List.length_append]
  omega

theorem parameter_toText (p : PlainParameter strict) : p.parameter.toText
    = (if p.isRest then ("..." : Text) else [])
    ++ (p.name ++ ((if p.isOptional && !p.isRest then ("?" : Text) else [])
      ++ ((": " : Text) ++ (p.type.type strict).toText))) := by
  rw [Parameter.toText, List.append_assoc, List.append_assoc, List.append_assoc]
  obtain ⟨name, type, isOptional, isRest, _, _⟩ := p
  cases isRest <;> cases isOptional <;> rfl

theorem cut_parameter (p : PlainParameter strict) {last rest : Text} {behind : List Lexeme}
    (hends : EndsName rest)
    (hrest : Cut last rest behind) : Cut last (p.parameter.toText ++ rest) (p.lexemes ++ behind) := by
  have hname := isName_of_isOrdinary p.isOrdinary_name
  have hcolon : Cut last ((": " : Text) ++ ((p.type.type strict).toText ++ rest))
      (.mark ":" :: (p.type.lexemes ++ behind)) :=
    .plainMark (by decide) (.blank (PlainType.cut_type p.isNormal_type hends hrest))
  rw [parameter_toText, PlainParameter.lexemes]
  simp only [List.append_assoc, List.cons_append]
  cases p.isRest with
  | true =>
    rw [Bool.not_true, Bool.and_false]
    exact .dots (.name p.name hname (endsName_cons (by decide) _) hcolon)
  | false =>
    rw [Bool.not_false, Bool.and_true]
    cases p.isOptional with
    | true => exact .name p.name hname (endsName_cons (u := 0x3F) (by decide) _) (.question hcolon)
    | false => exact .name p.name hname (endsName_cons (by decide) _) hcolon

theorem cut_parameters (parameters : List (PlainParameter strict)) {last rest : Text}
    {behind : List Lexeme}
    (hrest : Cut last rest behind) :
    Cut last (Text.join ", " (parameters.map fun p => p.parameter.toText) ++ ((")" : Text) ++ rest))
      (Reader.listed "," ")" (parameters.map PlainParameter.lexemes) ++ behind) := by
  have hclosing : Cut last ((")" : Text) ++ rest) (.mark ")" :: behind) := .plainMark (by decide) hrest
  induction parameters with
  | nil => exact hclosing
  | cons first others ih =>
    cases others with
    | nil =>
      rw [List.map_singleton, List.map_singleton, Reader.listed, List.append_assoc,
        Text.join, List.intercalate_singleton]
      exact cut_parameter first (endsName_cons (u := 0x29) (by decide) _) hclosing
    | cons second others =>
      rw [List.map_cons, List.map_cons, Text.join_cons_cons, List.map_cons,
        List.map_cons, Reader.listed, List.append_assoc, List.append_assoc, List.append_assoc]
      exact cut_parameter first (endsName_cons (by decide) _) (.plainMark (by decide) (.blank ih))

/-- **The declaration of a function is cut** into the lexemes that it is written by. -/
theorem exists_tokens_declarationLine (s : PlainSignature strict) :
    ∃ site behind, tokens (declarationLine s.signature) = ⟨.word "export", site, true⟩ :: behind
      ∧ InLine behind (.word "declare" :: (s.lexemes ++ [.mark ";"])) := by
  have hname := isName_of_isOrdinary s.isOrdinary_name
  have hend : Cut [] (";" : Text) [.mark ";"] := .plainMark (by decide) .nil
  have hresult := PlainType.cut_type s.isNormal_result (endsName_cons (by decide) _) hend
  have hbehind : Cut [] ((": " : Text) ++ ((s.result.type strict).toText ++ (";" : Text)))
      (.mark ":" :: (s.result.lexemes ++ [.mark ";"])) := .plainMark (by decide) (.blank hresult)
  have hparameters := cut_parameters s.parameters hbehind
  have hline :
      declarationLine s.signature = ("export" : Text) ++ ((" declare function " : Text) ++ (s.name
        ++ (("(" : Text) ++ (Text.join ", " (s.parameters.map fun p => p.parameter.toText)
          ++ ((")" : Text) ++ ((": " : Text)
            ++ ((s.result.type strict).toText ++ (";" : Text)))))))) := by
    rw [declarationLine, Signature.toText, PlainSignature.signature, List.map_map]
    simp only [List.append_assoc]
    rfl
  rw [hline]
  have hopen := Cut.plainMark (u := 0x28) (by decide) hparameters
  have hfunction := Cut.name s.name hname (endsName_cons (u := 0x28) (by decide) _) hopen
  have hlexemes : s.lexemes ++ [.mark ";"] = .word "function" :: .word s.name :: .mark "(" :: (s.formals
      ++ .mark ":" :: (s.result.lexemes ++ [.mark ";"])) := by
    rw [PlainSignature.lexemes, List.cons_append, List.cons_append, List.cons_append, List.append_assoc]
    rfl
  rw [hlexemes]
  exact exists_tokens (by decide) (endsName_cons (by decide) _)
    (.blank (.name "declare" (by decide) (endsName_cons (by decide) _)
    (.blank (.name "function" (by decide) (endsName_cons (by decide) _) (.blank hfunction)))))

/-! ## Declarations read -/

/-- **What a parameter is read as**, wherever its names stand. -/
def PlainParameter.Binds (p : PlainParameter strict) (b : Binder) : Prop :=
  ∃ site nameSite tree,
    b = { formal := ⟨site, some p.name, p.name, p.isOptional && !p.isRest, p.isRest, some tree⟩
          pattern := .name nameSite p.name
          default := none
          visibility := none
          decorators := [] }
      ∧ Writes p.type tree

/-- **What the declaration of a function is read as**, wherever its names stand. -/
def PlainSignature.Declares (s : PlainSignature strict) (tree : FunctionTree) : Prop :=
  ∃ site binders result resultSite,
    tree = { site, name := some s.name, kind := .plain, isAsync := false, isGenerator := false,
             typeFormals := [], binders, result := some (result, resultSite), body := .absent }
      ∧ List.Forall₂ PlainParameter.Binds s.parameters binders ∧ Writes s.result result

namespace Reader

variable {e : Reader Expression} {limit : Nat} {behind : List Lexeme}

theorem reads_decorators (h : behind.head? ≠ some (.mark "@")) :
    Reads (decorators e limit) [] behind (· = []) := by
  cases limit with
  | zero => exact .pure rfl
  | succ limit => exact bind_has_not (refuses_mark h) (.pure rfl)

/-- Dots in front of a parameter. -/
theorem reads_parameterModifiers (h : ∀ name, behind.head? ≠ some (.word name)) :
    Reads (parameterModifiers limit) [] behind (· = []) := by
  cases limit with
  | zero => exact .pure rfl
  | succ limit => exact .orElse_of_refuses (.bind (refuses_word h) _) (.pure rfl)

/-- A name that stands for itself, also if it could say how a class keeps a parameter. -/
theorem reads_parameterModifiers_name {name spelling : Text}
    (h : spelling ∈ ["?", ":"].map Text.ofString) (more : List Lexeme) :
    Reads (parameterModifiers limit) [] (.word name :: .mark spelling :: more) (· = []) := by
  cases limit with
  | zero => exact .pure rfl
  | succ limit =>
    have hmark : ∀ {other : Text}, other ∉ ["?", ":"].map Text.ofString →
        Refuses (mark other) (.mark spelling :: more) :=
      fun hother => refuses_mark (head_cons_ne (by rintro ⟨⟩; exact hother h))
    refine .orElse_of_refuses (reads_word.refuses_bind fun found _ => ?_) (.pure rfl)
    by_cases hword : parameterWords.contains found.1 = true
    · refine (reads_guard hword).refuses_bind fun _ _ => ?_
      refine (reads_sees_of_refuses ?_).refuses_bind ?_
      · exact .orElse (refuses_word fun _ => nofun)
          (.bind (.orElse (hmark (by decide)) (hmark (by decide))) _)
      · rintro _ rfl
        exact refuses_guard nofun _ _
    · exact refuses_guard hword _ _

/-- A mark that may stand in front of something else. -/
theorem reads_has_mark {spelling : Text} (isThere : Bool) (h : behind.head? ≠ some (.mark spelling)) :
    Reads (has (mark spelling)) (if isThere then [.mark spelling] else []) behind (· = isThere) := by
  cases isThere with
  | true => exact reads_has reads_mark
  | false => exact reads_has_not (refuses_mark h)

theorem reads_formal (p : PlainParameter strict) (hlimit : p.type.lexemes.length < limit)
    (hbehind : Follows typeEnds behind) :
    Reads (formal (typeTree limit) e limit) p.lexemes behind fun found =>
      ∃ site nameSite tree,
        found = (⟨site, some p.name, p.name, p.isOptional && !p.isRest, p.isRest, some tree⟩,
          .name nameSite p.name)
          ∧ Writes p.type tree := by
  obtain ⟨limit, rfl⟩ : ∃ k, limit = k + 1 := Nat.exists_eq_succ_of_ne_zero (by omega)
  have htype : Reads (typeBehindColon (typeTree (limit + 1))) (.mark ":" :: p.type.lexemes) behind
      fun found => ∃ tree, found = some tree ∧ Writes p.type tree :=
    bind_has reads_mark
      ((reads_typeTree p.isNormal_type hlimit hbehind).bind_last fun tree htree =>
        .pure ⟨tree, rfl, htree⟩)
  have hword : ∀ {more : List Lexeme}, (Lexeme.word p.name :: more).head? ≠ some (.mark "...") :=
    head_cons_ne nofun
  refine reads_peek.bind_nil fun start _ => (reads_has_mark p.isRest hword).bind ?_
  rintro _ rfl
  refine (reads_pattern e).bind_cons ?_
  rintro _ ⟨nameSite, rfl⟩
  refine (reads_has_mark _ (head_cons_ne (by decide))).bind ?_
  rintro _ rfl
  refine htype.bind_last ?_
  rintro _ ⟨tree, rfl, htree⟩
  exact .pure ⟨_, nameSite, tree, rfl, htree⟩

/-- **A parameter is read back** from how it is written. -/
theorem reads_binder (p : PlainParameter strict) (hlimit : p.type.lexemes.length < limit)
    (hbehind : behind.head? = some (.mark ",") ∨ behind.head? = some (.mark ")")) :
    Reads (binder e limit) p.lexemes behind p.Binds := by
  have hends : Follows typeEnds behind :=
    hbehind.elim (fun h => ⟨_, by decide, h⟩) fun h => ⟨_, by decide, h⟩
  have hmodifiers : Reads (parameterModifiers limit) [] (p.lexemes ++ behind) (· = []) := by
    rw [PlainParameter.lexemes]
    cases p.isRest with
    | true => exact reads_parameterModifiers fun _ => nofun
    | false =>
      cases p.isOptional with
      | true => exact reads_parameterModifiers_name (by decide) _
      | false => exact reads_parameterModifiers_name (by decide) _
  refine (reads_decorators (p.head_ne_mark (by decide) behind)).bind_nil ?_
  rintro _ rfl
  refine hmodifiers.bind_nil ?_
  rintro _ rfl
  refine (reads_formal p hlimit hends).bind_last ?_
  rintro _ ⟨site, nameSite, tree, rfl, htree⟩
  refine Reads.bind_nil (bind_has_not (refuses_mark (hends.head_ne (by decide))) (.pure rfl)) ?_
  rintro _ rfl
  exact .pure ⟨site, nameSite, tree, rfl, htree⟩

/-- **A result is read back** from how it is written. -/
theorem reads_resultBehindColon {t : PlainType} (hnormal : t.isNormal strict = true)
    (hlimit : t.lexemes.length < limit) :
    Reads (resultBehindColon limit) (.mark ":" :: t.lexemes) (.mark ";" :: behind) fun found =>
      ∃ tree site, found = some (tree, site) ∧ Writes t tree := by
  have hends : Follows typeEnds (.mark ";" :: behind) := ⟨_, by decide, rfl⟩
  have htype := reads_typeTree hnormal hlimit hends
  have hpredicate : ∀ {α : Type} (next : Text × Site → Token → Reader α),
      Refuses (do let found ← word; let token ← keywordInLine "is"; next found token)
        (t.lexemes ++ .mark ";" :: behind) := by
    intro α next
    obtain ⟨inner, more, -, hlexemes⟩ | ⟨name, hlexemes⟩ | ⟨name, second, more, hlexemes, hsecond⟩ :=
      exists_second t <;>
      rw [hlexemes]
    · refine .bind (refuses_word fun _ => ?_) _
      exact head_cons_ne nofun
    · exact reads_word.refuses_bind fun _ _ =>
        .bind (refuses_keywordInLine (head_cons_ne (by decide))) _
    · have hnot : (second :: (more ++ .mark ";" :: behind)).head? ≠ some (.word "is") :=
        head_cons_ne (by rintro rfl; exact absurd hsecond (by decide))
      exact reads_word.refuses_bind fun _ _ => .bind (refuses_keywordInLine hnot) _
  have hresult : Reads (resultType (typeTree limit)) t.lexemes (.mark ";" :: behind) (Writes t) := by
    refine .orElse_of_refuses (.bind (refuses_keyword (head_lexemes_ne (by decide) t _)) _) ?_
    exact .orElse_of_refuses (hpredicate _) htype
  refine bind_has reads_mark (reads_peek.bind_nil fun start _ => hresult.bind_last fun tree htree => ?_)
  exact .pure ⟨tree, _, rfl, htree⟩

/-- Parameters are read back from how they are written. -/
theorem reads_binders (s : PlainSignature strict) (hlimit : s.formals.length < limit) :
    Reads (itemsUntil ")" [","] (binder e limit) limit) s.formals behind
      (List.Forall₂ PlainParameter.Binds s.parameters) := by
  obtain ⟨hcount, hlengths⟩ := s.length_formals
  refine reads_itemsUntil (by decide) s.parameters ?_ ?_ (hcount.trans_lt hlimit)
  · exact fun p _ more => p.head_ne_mark (by decide) more
  · intro p hp more hmore
    exact reads_binder p ((hlengths p hp).trans hlimit) hmore

/-- **The declaration of a function is read back** from how it is written. -/
theorem reads_functionTree {statement : Reader Statement} (s : PlainSignature strict)
    (hlimit : s.lexemes.length < limit) :
    Reads (functionTree e statement limit) s.lexemes (.mark ";" :: behind) s.Declares := by
  have hlength := s.length_lexemes
  have hmark :
      ∀ {name spelling : Text} {more : List Lexeme}, Refuses (mark spelling) (.word name :: more) :=
    refuses_mark (head_cons_ne nofun)
  refine bind_has_not (refuses_keyword (head_cons_ne (by decide)))
    (reads_keyword.bind_cons fun start _ => ?_)
  refine bind_has_not hmark (Reads.bind_cons (reads_optionally reads_word) ?_)
  rintro _ ⟨⟨found, site⟩, rfl, rfl⟩
  refine Reads.bind_nil (bind_has_not (refuses_mark (head_cons_ne (by decide))) (.pure rfl)) ?_
  rintro _ rfl
  refine reads_mark.bind_cons fun _ _ => (reads_binders s (by omega)).bind fun binders hbinders => ?_
  refine (reads_resultBehindColon s.isNormal_result (by omega)).bind_last ?_
  rintro _ ⟨result, resultSite, rfl, hresult⟩
  refine Reads.bind_nil (reads_optionally_not (.bind (refuses_mark (head_cons_ne (by decide))) _)) ?_
  rintro _ rfl
  exact .pure ⟨_, binders, result, resultSite, rfl, hbinders, hresult⟩

/-! ## The whole line -/

/-- A declaration that is handed out. -/
def handedOut : Modifiers := { isExported := true, isDefault := false, isDeclared := true }

/-- The words in front of a declaration, behind the first one. -/
theorem reads_modifiers {name : Text}
    (hname : name ∉ ["export", "default", "declare"].map Text.ofString)
    (hlimit : 0 < limit) :
    Reads (modifiers limit) [.word "declare"] (.word name :: behind)
      (· = { isExported := false, isDefault := false, isDeclared := true }) := by
  obtain ⟨limit, rfl⟩ : ∃ k, limit = k + 1 := Nat.exists_eq_succ_of_ne_zero (by omega)
  have hnone : Reads (modifiers limit) [] (.word name :: behind) (· = default) := by
    have hword : ∀ word ∈ ["export", "default", "declare"].map Text.ofString,
        Refuses (keyword word) (.word name :: behind) :=
      fun word hmem => refuses_keyword (head_cons_ne (by rintro ⟨⟩; exact hname hmem))
    cases limit with
    | zero => exact .pure rfl
    | succ limit =>
      refine .orElse_of_refuses (.bind (hword "export" (by decide)) _) ?_
      refine .orElse_of_refuses (.bind (hword "default" (by decide)) _) ?_
      exact .orElse_of_refuses (.bind (hword "declare" (by decide)) _) (.pure rfl)
  refine .orElse_of_refuses (.bind (refuses_keyword (head_cons_ne (by decide))) _) ?_
  refine .orElse_of_refuses (.bind (refuses_keyword (head_cons_ne (by decide))) _) (.orElse ?_)
  refine reads_keyword.bind_cons fun _ _ => ?_
  have hsees : Reads (sees word) [] (.word name :: behind) (· = true) := reads_sees reads_word
  refine hsees.bind_nil ?_
  rintro _ rfl
  refine (reads_guard rfl).bind_nil fun _ _ => hnone.bind_last ?_
  rintro _ rfl
  exact .pure rfl

/-- The declaration of a function, from the word on that hands it out. -/
theorem exists_declaration (e : Reader Expression) (statement : Reader Statement) (site : Site)
    (s : PlainSignature strict) (hlimit : s.lexemes.length < limit) {tokens : List Token}
    (htokens : InLine tokens (.word "declare" :: (s.lexemes ++ [.mark ";"]))) :
    ∃ tree, declaration e statement limit (⟨.word "export", site, true⟩ :: tokens)
        = some (.function handedOut tree, [])
      ∧ s.Declares tree := by
  obtain ⟨limit, rfl⟩ : ∃ k, limit = k + 1 := Nat.exists_eq_succ_of_ne_zero (by omega)
  have hpos : 0 < limit := by
    rw [PlainSignature.lexemes, List.length_cons] at hlimit
    exact Nat.lt_of_lt_of_le (Nat.succ_pos _) (Nat.le_of_lt_succ hlimit)
  have hending : Reads ending [.mark ";"] [] fun _ => True :=
    (reads_optionally reads_mark).bind_last fun _ _ => .pure trivial
  have hbefore : decorators e (limit + 1) (⟨.word "export", site, true⟩ :: tokens)
      = some ([], ⟨.word "export", site, true⟩ :: tokens) := rfl
  have hfunction :
      (("function" : Text)) ∉ ["export", "default", "declare"].map Text.ofString := by decide
  obtain ⟨_, rest, hmodifiers, hrest, rfl⟩ := reads_modifiers hfunction hpos tokens htokens
  have hexport : modifiers (limit + 1) (⟨.word "export", site, true⟩ :: tokens)
      = some (handedOut, rest) := by
    refine orElse_eq_of_some ?_
    rw [bind_eq_of_some (a := ⟨.word "export", site, true⟩) rfl, bind_eq_of_some hmodifiers]
    rfl
  rw [declaration, bind_eq_of_some rfl, bind_eq_of_some hbefore, bind_eq_of_some hexport]
  have hdeclaration : ∀ {other : List Expression → Reader Statement}, Reads (do
      let behind ← decorators e (limit + 1)
      (do
        let tree ← functionTree e statement (limit + 1)
        ending
        return Statement.function handedOut tree) <|> other behind) (s.lexemes ++ [.mark ";"]) []
      fun found => ∃ tree, found = .function handedOut tree ∧ s.Declares tree := by
    intro other
    refine Reads.bind_nil (reads_decorators (head_cons_ne (by decide))) fun _ _ => ?_
    refine .orElse
      ((reads_functionTree s hlimit).bind fun tree htree => hending.bind_last fun _ _ => ?_)
    exact .pure ⟨tree, rfl, htree⟩
  obtain ⟨_, _, heq, hnil, tree, rfl, htree⟩ := hdeclaration rest (by rw [List.append_nil]; exact hrest)
  cases hnil
  exact ⟨tree, heq, htree⟩

/-- A statement that starts with the word for what is handed out is a declaration, if it can be read as
one. -/
theorem wholeStatement_export {statement : Reader Statement} {site : Site} {tokens rest : List Token}
    {found : Statement}
    (h : declaration e statement limit (⟨.word "export", site, true⟩ :: tokens) = some (found, rest)) :
    wholeStatement e statement limit (⟨.word "export", site, true⟩ :: tokens) = some (found, rest) := by
  rw [wholeStatement, orElse_eq_of_none rfl, orElse_eq_of_none rfl, orElse_eq_of_none rfl,
    orElse_eq_of_none rfl]
  exact orElse_eq_of_some h

/-- Nothing is read where there is nothing. -/
theorem statements_nil (limit : Nat) : statements limit [] = [] := by
  cases limit <;> rfl

end Reader

/-- **The line of a plain signature is read as the declaration of its function**. -/
theorem exists_ofText_declarationLine (s : PlainSignature strict) :
    ∃ tree, (SourceTree.ofText (declarationLine s.signature)).statements
      = [.function Reader.handedOut tree]
      ∧ (SourceTree.ofText (declarationLine s.signature)).size = s.lexemes.length + 3
      ∧ s.Declares tree := by
  obtain ⟨site, behind, htokens, hinLine⟩ := exists_tokens_declarationLine s
  have hlength : behind.length = s.lexemes.length + 2 := by
    rw [hinLine.length_eq, List.length_cons, List.length_append]
    rfl
  have hlimit : s.lexemes.length < behind.length + 1 := by omega
  obtain ⟨tree, hdeclaration, htree⟩ :=
    Reader.exists_declaration (Reader.expression (behind.length + 1))
    (Reader.statement (behind.length + 1)) site s hlimit hinLine
  have hstatement : Reader.statement (behind.length + 2) (⟨.word "export", site, true⟩ :: behind)
      = some (.function Reader.handedOut tree, []) := Reader.wholeStatement_export hdeclaration
  refine ⟨tree, ?_, ?_, htree⟩
  · rw [SourceTree.ofText, htokens]
    change Reader.statements (behind.length + 1) _ = _
    rw [Reader.statements, List.length_cons, hstatement]
    exact congrArg (List.cons _) (Reader.statements_nil _)
  · rw [SourceTree.ofText, htokens]
    exact congrArg (· + 1) hlength

end Turnstile.Source
