import Turnstile.Proofs.Source.PlainTypes
import Turnstile.Proofs.Source.Reading
import Turnstile.Source.Reader.Types

/-! # Plain types read

The lexemes of a plain type are read as a tree that says that type.

* **`Writes`** says which trees say a plain type.
* **`Reader.exists_start`** and **`Reader.exists_second`**: how the lexemes of a plain type begin,
  by which everything that the reader tries before fails: a list of parameters, an operator, a
  function type.
* **`Reader.reads_typeTree`**: what is read of a plain type says it. The induction is on the limit of
  the reader, which grows with the parentheses. -/

namespace Turnstile.Source

/-! ## What stands behind -/

/-- The lexemes on a line go on with one of the given ones. -/
def Follows (ends behind : List Lexeme) : Prop := ∃ lexeme ∈ ends, behind.head? = some lexeme

theorem Follows.head_ne {ends behind : List Lexeme} (h : Follows ends behind) {lexeme : Lexeme}
    (hnot : lexeme ∉ ends) : behind.head? ≠ some lexeme := by
  obtain ⟨first, hfirst, hhead⟩ := h
  rw [hhead]
  rintro ⟨⟩
  exact hnot hfirst

theorem Follows.mono {ends ends' behind : List Lexeme} (h : Follows ends behind) (hsub : ends ⊆ ends') :
    Follows ends' behind := by
  obtain ⟨first, hfirst, hhead⟩ := h
  exact ⟨first, hsub hfirst, hhead⟩

theorem head_cons_ne {first lexeme : Lexeme} {more : List Lexeme} (h : first ≠ lexeme) :
    (first :: more).head? ≠ some lexeme := fun heq => h (Option.some.inj heq)

/-- What may stand behind a whole type. -/
def typeEnds : List Lexeme := [.mark ")", .mark ",", .mark ";", .mark ">"]

/-- What may stand behind a member of a union. -/
def memberEnds : List Lexeme := .mark "|" :: typeEnds

/-- What may stand behind a type whose text ends by itself. -/
def operandEnds : List Lexeme := .mark "[" :: memberEnds

/-- **A tree says a plain type**, wherever its names stand. -/
inductive Writes : PlainType → TypeTree → Prop where
  | keyword {word : Keyword} {site : Site} :
    Writes (.keyword word) (.name site [PlainType.wordOf word] [])
  | arrayLike {site inner : Site} :
    Writes .arrayLike (.name site ["ArrayLike"] [.name inner ["number"] []])
  | int32Array {mayBeShared : Bool} {site inner : Site} :
    Writes (.int32Array mayBeShared)
      (.name site ["Int32Array"] [.name inner [PlainType.bufferName mayBeShared] []])
  | array {element : PlainType} {tree : TypeTree} (h : Writes element tree) :
    Writes (.array false element) (.array tree)
  | readonly {element : PlainType} {tree : TypeTree} (h : Writes element tree) :
    Writes (.array true element) (.readonly (.array tree))
  | orUndefined {type : PlainType} {tree : TypeTree} {site : Site} (h : Writes type tree) :
    Writes (.orUndefined type) (.union [tree, .name site ["undefined"] []])

namespace Reader

variable {strict : Bool} {type : Reader TypeTree} {limit : Nat}
  {read behind : List Lexeme} {name : Text}

/-! ## Names -/

/-- Words that mean something in front of a type. -/
def typeWords : List Text :=
  ["typeof", "true", "false", "import", "keyof", "readonly", "unique", "infer",
    "abstract", "new"].map Text.ofString

theorem reads_path (h : behind.head? ≠ some (.mark ".")) :
    Reads (path limit name) [] behind (· = [name]) := by
  cases limit with
  | zero => exact .pure rfl
  | succ limit => exact bind_optionally_not (.bind (refuses_mark h) _) (.pure rfl)

/-- A name that means nothing else refers to a type, by its path. -/
theorem typeReference_eq (hname : name ∉ typeWords) (site : Site) :
    typeReference type limit name site = do
    let path ← path limit name
    return .name site path (← typeArguments type limit) := by
  have hnot : ∀ word ∈ typeWords, ¬ (name == word) = true := fun word hword heq =>
    hname (beq_iff_eq.mp heq ▸ hword)
  rw [typeReference, if_neg (hnot "typeof" (by decide)), if_neg (hnot "true" (by decide)),
    if_neg (hnot "false" (by decide)), if_neg (hnot "import" (by decide))]

/-- A name without type arguments. -/
theorem reads_reference (hname : name ∉ typeWords) (hpoint : behind.head? ≠ some (.mark "."))
    (hopen : behind.head? ≠ some (.mark "<")) (site : Site) :
    Reads (typeReference type limit name site) [] behind (· = .name site [name] []) := by
  have harguments : Reads (typeArguments type limit) [] behind (· = []) :=
    bind_has_not (refuses_mark hopen) (.pure rfl)
  rw [typeReference_eq hname]
  refine (reads_path hpoint).bind_nil ?_
  rintro _ rfl
  refine harguments.bind_nil ?_
  rintro _ rfl
  exact .pure rfl

/-- A name with one type argument, which is a name. -/
theorem reads_reference_argument {inner : Text} (hname : name ∉ typeWords)
    (htype : Reads type [.word inner] (.mark ">" :: behind) fun tree =>
      ∃ site, tree = .name site [inner] [])
    (hlimit : 1 < limit) (site : Site) :
    Reads (typeReference type limit name site) [.mark "<", .word inner, .mark ">"] behind
      fun tree => ∃ innerSite, tree = .name site [name] [.name innerSite [inner] []] := by
  have harguments : Reads (typeArguments type limit) [.mark "<", .word inner, .mark ">"] behind
      fun trees => ∃ site, trees = [.name site [inner] []] := by
    obtain ⟨limit, rfl⟩ : ∃ k, limit = k + 1 := Nat.exists_eq_succ_of_ne_zero (by omega)
    refine bind_has reads_mark ?_
    refine bind_has_not (refuses_mark (head_cons_ne (by rintro ⟨⟩))) (htype.bind_cons ?_)
    rintro _ ⟨site, rfl⟩
    exact bind_has reads_mark (.pure ⟨site, rfl⟩)
  rw [typeReference_eq hname]
  refine (reads_path (head_cons_ne (by decide))).bind_nil ?_
  rintro _ rfl
  refine harguments.bind_last ?_
  rintro _ ⟨innerSite, rfl⟩
  exact .pure ⟨innerSite, rfl⟩

/-- The words and the mark that a plain type starts with. -/
def typeStarts : List Lexeme :=
  .mark "(" :: .word "readonly" :: .word "ArrayLike" :: .word "Int32Array"
    :: [Keyword.number, .integer, .string, .boolean, .void, .undefined, .unknown, .any].map fun word =>
      Lexeme.word (PlainType.wordOf word)

theorem exists_start (t : PlainType) :
    ∃ first more, t.lexemes = first :: more ∧ first ∈ typeStarts := by
  induction t with
  | keyword word => exact ⟨_, _, rfl, by cases word <;> decide⟩
  | arrayLike | int32Array => exact ⟨_, _, rfl, by decide⟩
  | array isReadonly element ih =>
    cases isReadonly with
    | true => exact ⟨_, _, rfl, by decide⟩
    | false =>
      obtain ⟨first, more, hlexemes, hfirst⟩ := ih
      rw [PlainType.lexemes, PlainType.enclosed, hlexemes]
      split
      · exact ⟨.mark "(", _, rfl, by decide⟩
      · exact ⟨first, _, rfl, hfirst⟩
  | orUndefined u ih =>
    obtain ⟨first, more, hlexemes, hfirst⟩ := ih
    rw [PlainType.lexemes, hlexemes]
    exact ⟨_, _, rfl, hfirst⟩

theorem length_lexemes_pos (t : PlainType) : 0 < t.lexemes.length := by
  obtain ⟨first, more, hlexemes, -⟩ := exists_start t
  rw [hlexemes]
  exact Nat.succ_pos _

/-- A plain type does not start with another lexeme. -/
theorem head_lexemes_ne {lexeme : Lexeme} (hnot : lexeme ∉ typeStarts) (t : PlainType)
    (behind : List Lexeme) :
    (t.lexemes ++ behind).head? ≠ some lexeme := by
  obtain ⟨first, more, hlexemes, hfirst⟩ := exists_start t
  rw [hlexemes]
  rintro ⟨⟩
  exact hnot hfirst

/-- What ends by itself does not start with `readonly`. -/
theorem head_lexemes_ne_readonly {t : PlainType} (htight : t.tightness = 4) (behind : List Lexeme) :
    (t.lexemes ++ behind).head? ≠ some (.word "readonly") := by
  induction t generalizing behind with
  | keyword word => exact head_cons_ne (by cases word <;> decide)
  | arrayLike | int32Array => exact head_cons_ne (by decide)
  | array isReadonly element ih =>
    cases isReadonly with
    | true => exact absurd htight (by decide : 3 ≠ 4)
    | false =>
      rw [PlainType.lexemes, PlainType.enclosed, List.append_assoc]
      split
      · exact head_cons_ne (by decide)
      · exact ih (Nat.le_antisymm (PlainType.tightness_le element) (Nat.not_lt.mp ‹_›)) _
  | orUndefined u => exact absurd htight (by decide : 1 ≠ 4)

/-- What goes on behind a name that a type starts with. -/
def goesOn : List Lexeme := .mark "<" :: .mark "[" :: .mark "|" :: typeStarts

/-- A plain type starts with one in parentheses, is a single name, or starts with a name that goes on
as no parameter does. -/
theorem exists_second (t : PlainType) :
    (∃ inner more, PlainType.tightness inner < 4
        ∧ t.lexemes = .mark "(" :: (inner.lexemes ++ .mark ")" :: more))
      ∨ (∃ name, t.lexemes = [.word name])
      ∨ ∃ name second more, t.lexemes = .word name :: second :: more ∧ second ∈ goesOn := by
  induction t with
  | keyword word => exact .inr (.inl ⟨_, rfl⟩)
  | arrayLike | int32Array => exact .inr (.inr ⟨_, _, _, rfl, by decide⟩)
  | array isReadonly element ih =>
    cases isReadonly with
    | true =>
      rw [PlainType.lexemes, PlainType.enclosed]
      refine .inr (.inr ?_)
      split
      · exact ⟨_, .mark "(", _, rfl, by decide⟩
      · obtain ⟨first, more, hlexemes, hfirst⟩ := exists_start element
        rw [hlexemes]
        exact ⟨_, first, _, rfl, .tail _ (.tail _ (.tail _ hfirst))⟩
    | false =>
      rw [PlainType.lexemes, PlainType.enclosed]
      split
      · refine .inl ⟨element, [.mark "[", .mark "]"], ‹_›, ?_⟩
        rw [List.cons_append, List.append_assoc]
        rfl
      · obtain ⟨inner, more, hinner, h⟩ | ⟨name, h⟩ | ⟨name, second, more, h, hsecond⟩ := ih <;> rw [h]
        · refine .inl ⟨inner, more ++ [.mark "[", .mark "]"], hinner, ?_⟩
          rw [List.cons_append, List.append_assoc]
          rfl
        · exact .inr (.inr ⟨name, .mark "[", _, rfl, by decide⟩)
        · exact .inr (.inr ⟨name, second, _, rfl, hsecond⟩)
  | orUndefined u ih =>
    rw [PlainType.lexemes]
    obtain ⟨inner, more, hinner, h⟩ | ⟨name, h⟩ | ⟨name, second, more, h, hsecond⟩ := ih <;> rw [h]
    · refine .inl ⟨inner, more ++ [.mark "|", .word "undefined"], hinner, ?_⟩
      rw [List.cons_append, List.append_assoc]
      rfl
    · exact .inr (.inr ⟨name, .mark "|", _, rfl, by decide⟩)
    · exact .inr (.inr ⟨name, second, _, rfl, hsecond⟩)

/-- What is written in parentheses is no single name. -/
theorem one_lt_length {t : PlainType} (h : t.tightness < 4) : 1 < t.lexemes.length := by
  cases t with
  | keyword | arrayLike | int32Array => exact absurd h (Nat.lt_irrefl 4)
  | array isReadonly element =>
    cases isReadonly with
    | true =>
      rw [PlainType.lexemes, List.length_cons, List.length_append]
      exact Nat.succ_lt_succ (Nat.lt_add_left _ (by decide))
    | false => exact absurd h (Nat.lt_irrefl 4)
  | orUndefined u =>
    rw [PlainType.lexemes, List.length_append]
    exact Nat.lt_add_left _ (by decide)

/-- A name is what a value is bound to. -/
theorem reads_pattern (expression : Reader Expression) :
    Reads (pattern expression (limit + 1)) [.word name] behind fun p =>
      ∃ site, p = .name site name := by
  refine .orElse (reads_word.bind_last ?_)
  rintro ⟨found, site⟩ rfl
  exact .pure ⟨site, rfl⟩

theorem refuses_pattern (expression : Reader Expression)
    (hword : ∀ name, behind.head? ≠ some (.word name))
    (hbrace : behind.head? ≠ some (.mark "\x7b")) (hbracket : behind.head? ≠ some (.mark "[")) :
    Refuses (pattern expression limit) behind := by
  cases limit with
  | zero => exact .failure
  | succ limit =>
    exact .orElse (.bind (refuses_word hword) _)
      (.orElse (.bind (refuses_mark hbrace) _) (.bind (refuses_mark hbracket) _))

/-- A name in front of something else than a type is read as a parameter, after which no other one
can follow. -/
theorem reads_formal_name {second : Lexeme} (hsecond : second ∈ goesOn) (more : List Lexeme) :
    Reads (formal type failure (limit + 1)) [.word name] (second :: more) fun _ => True := by
  have hne : ∀ spelling, Lexeme.mark spelling ∉ goesOn → Refuses (mark spelling) (second :: more) :=
    fun spelling hnot => refuses_mark (head_cons_ne (by rintro rfl; exact hnot hsecond))
  have htype : Reads (typeBehindColon type) [] (second :: more) fun _ => True :=
    bind_has_not (hne ":" (by decide)) (.pure trivial)
  refine reads_peek.bind_nil fun _ _ =>
    bind_has_not (refuses_mark nofun) ((reads_pattern failure).bind_last fun _ _ => ?_)
  exact bind_has_not (hne "?" (by decide)) (htype.bind_nil fun _ _ => .pure trivial)

/-- A type in parentheses is no list of parameters. -/
theorem refuses_formals {t : PlainType} (h : t.tightness < 4) (type : Reader TypeTree) (limit : Nat)
    (behind : List Lexeme) :
    Refuses (itemsUntil ")" [","] (formal type failure limit) limit) (t.lexemes ++ behind) := by
  cases limit with
  | zero => exact .failure
  | succ limit =>
    refine refuses_has_not (refuses_mark (head_lexemes_ne (by decide) t behind)) ?_
    obtain ⟨inner, more, -, hlexemes⟩ | ⟨name, hlexemes⟩ | ⟨name, second, more, hlexemes, hsecond⟩ :=
      exists_second t
    · rw [hlexemes]
      refine .bind ?_ _
      refine reads_peek.refuses_bind fun _ _ =>
        refuses_has_not (refuses_mark (head_cons_ne (by decide))) (.bind ?_ _)
      exact refuses_pattern _ (fun _ => nofun) (head_cons_ne (by decide)) (head_cons_ne (by decide))
    · have hlength := one_lt_length h
      rw [hlexemes] at hlength
      exact absurd hlength (Nat.lt_irrefl 1)
    · rw [hlexemes]
      have hclosing : Refuses (mark ")") (second :: (more ++ behind)) :=
        refuses_mark (head_cons_ne (by rintro rfl; exact absurd hsecond (by decide)))
      refine (reads_formal_name hsecond (more ++ behind)).refuses_bind fun _ _ =>
        refuses_has_not hclosing (reads_peek.refuses_bind ?_)
      rintro token ⟨htoken, hinLine⟩
      obtain ⟨token, rfl, hlexeme⟩ := Option.map_eq_some_iff.mp htoken
      have hline : token.opensLine = false := hinLine token rfl
      simp only [hlexeme, hline, Bool.false_eq_true, if_false]
      split
      · rename_i spelling
        have hcomma : (spelling == ",") = false :=
          beq_false_of_ne (by rintro rfl; exact absurd hsecond (by decide))
        simp only [List.contains_cons, hcomma]
        exact .failure
      · exact .failure

/-- What starts with a name is no function type. -/
theorem refuses_functionType_name (habstract : name ≠ "abstract") (hnew : name ≠ "new")
    (type : Reader TypeTree) (limit : Nat) (behind : List Lexeme) :
    Refuses (functionType type limit) (.word name :: behind) := by
  have hword : ∀ {other : Text},
      name ≠ other → (Lexeme.word name :: behind).head? ≠ some (.word other) :=
    fun hne => head_cons_ne (fun heq => hne (Lexeme.word.inj heq))
  have hmark : ∀ {spelling : Text}, Refuses (mark spelling) (.word name :: behind) := fun {spelling} =>
    refuses_mark (head_cons_ne nofun)
  refine refuses_has_not (.bind (refuses_keyword (hword habstract)) _) ?_
  refine refuses_has_not (refuses_keyword (hword hnew)) (.bind ?_ _)
  have hformals : Reads (typeFormals type limit) [] (.word name :: behind) fun _ => True :=
    bind_has_not hmark (.pure trivial)
  exact hformals.refuses_bind fun _ _ => .bind hmark _

/-- A plain type is no function type. -/
theorem refuses_functionType (t : PlainType) (type : Reader TypeTree) (limit : Nat)
    (behind : List Lexeme) :
    Refuses (functionType type limit) (t.lexemes ++ behind) := by
  have hstart : ∀ {name more}, t.lexemes = .word name :: more → .word name ∈ typeStarts := by
    intro name more hlexemes
    obtain ⟨first, _, heq, hfirst⟩ := exists_start t
    obtain ⟨rfl, -⟩ := List.cons.inj (heq.symm.trans hlexemes)
    exact hfirst
  have hname : ∀ {name more}, t.lexemes = .word name :: more →
      Refuses (functionType type limit) (t.lexemes ++ behind) := by
    intro name more hlexemes
    have hmem := hstart hlexemes
    rw [hlexemes]
    exact refuses_functionType_name (by rintro rfl; exact absurd hmem (by decide))
      (by rintro rfl; exact absurd hmem (by decide)) type limit _
  obtain ⟨inner, more, hinner, hlexemes⟩ | ⟨name, hlexemes⟩ | ⟨name, second, more, hlexemes, -⟩ :=
    exists_second t
  · rw [hlexemes]
    have hword : ∀ {name}, Refuses (keyword name)
        (.mark "(" :: (inner.lexemes ++ .mark ")" :: more) ++ behind) :=
      fun {name} => refuses_keyword (head_cons_ne nofun)
    refine refuses_has_not (.bind hword _) (refuses_has_not hword (.bind ?_ _))
    have hformals : Reads (typeFormals type limit) []
        (.mark "(" :: (inner.lexemes ++ .mark ")" :: more) ++ behind)
        fun _ => True := bind_has_not (refuses_mark (head_cons_ne (by decide))) (.pure trivial)
    have hinside : Refuses (itemsUntil ")" [","] (formal type failure limit) limit)
        ((inner.lexemes ++ .mark ")" :: more) ++ behind) := by
      rw [List.append_assoc]
      exact refuses_formals hinner type limit _
    exact hformals.refuses_bind fun _ _ => reads_mark.refuses_bind fun _ _ => .bind hinside _
  · exact hname hlexemes
  · exact hname hlexemes

/-! ## Operands -/

/-- A name that a type is. -/
theorem reads_primaryType_name (hname : name ∉ typeWords) (hpoint : behind.head? ≠ some (.mark "."))
    (hopen : behind.head? ≠ some (.mark "<")) :
    Reads (primaryType type limit) [.word name] behind fun tree =>
      ∃ site, tree = .name site [name] [] := by
  refine reads_next.bind_last fun token htoken => ?_
  rw [htoken]
  exact (reads_reference hname hpoint hopen token.site).imp fun _ h => ⟨_, h⟩

/-- A name that a type is, with one type argument. -/
theorem reads_primaryType_argument {inner : Text} (hname : name ∉ typeWords)
    (htype : Reads type [.word inner] (.mark ">" :: behind) fun tree =>
      ∃ site, tree = .name site [inner] [])
    (hlimit : 1 < limit) :
    Reads (primaryType type limit) [.word name, .mark "<", .word inner, .mark ">"] behind
      fun tree => ∃ site innerSite, tree = .name site [name] [.name innerSite [inner] []] := by
  refine reads_next.bind_cons fun token htoken => ?_
  rw [htoken]
  exact (reads_reference_argument hname htype hlimit token.site).imp fun _ h => ⟨_, h⟩

/-- A type in parentheses. -/
theorem reads_primaryType_inner {wanted : TypeTree → Prop}
    (htype : Reads type read (.mark ")" :: behind) wanted) :
    Reads (primaryType type limit) (.mark "(" :: (read ++ [.mark ")"])) behind wanted := by
  refine reads_next.bind_cons fun token htoken => ?_
  rw [htoken]
  exact htype.bind fun _ h => reads_mark.bind_last fun _ _ => .pure h

/-- No brackets behind an operand. -/
theorem reads_typeSuffixes (h : behind.head? ≠ some (.mark "[")) (operand : TypeTree) :
    Reads (typeSuffixes type limit operand) [] behind (· = operand) := by
  cases limit with
  | zero => exact .pure rfl
  | succ limit =>
    refine reads_peek.bind_nil fun token _ => ?_
    split
    · exact .pure rfl
    · exact bind_has_not (refuses_mark h) (.pure rfl)

/-- An empty pair of brackets behind an operand. -/
theorem reads_typeSuffixes_array {operand : TypeTree} {wanted : TypeTree → Prop}
    (h : Reads (typeSuffixes type limit (.array operand)) read behind wanted) :
    Reads (typeSuffixes type (limit + 1) operand) (.mark "[" :: .mark "]" :: read) behind wanted := by
  refine reads_peek.bind_nil ?_
  rintro token ⟨htoken, hinLine⟩
  obtain ⟨token, rfl, -⟩ := Option.map_eq_some_iff.mp htoken
  rw [if_neg (by rw [Option.map_some, hinLine token rfl]; exact nofun)]
  exact bind_has reads_mark (bind_has reads_mark h)

/-- **A plain type that ends by itself**, in front of what its brackets are read up to. The types in
parentheses and in angle brackets are read by `type`. -/
theorem reads_suffixed (t : PlainType) (htight : t.tightness = 4)
    (hnormal : t.isNormal strict = true) {size : Nat}
    (hword : 1 < limit → ∀ {name} {behind : List Lexeme}, name ∉ typeWords → Follows typeEnds behind →
      Reads type [.word name] behind fun tree => ∃ site, tree = .name site [name] [])
    (htype : ∀ u : PlainType, u.isNormal strict = true → u.lexemes.length < t.lexemes.length →
      ∀ {behind : List Lexeme}, Follows typeEnds behind → Reads type u.lexemes behind (Writes u))
    (hlimit : t.lexemes.length ≤ limit + 1) {wanted : TypeTree → Prop}
    (hbehind : Follows operandEnds (read ++ behind))
    (hsuffixes : ∀ n tree, size ≤ n → Writes t tree →
      Reads (typeSuffixes type n tree) read behind wanted)
    {n : Nat} (hn : size + t.lexemes.length ≤ n + 1) :
    Reads (do typeSuffixes type n (← primaryType type limit)) (t.lexemes ++ read) behind wanted := by
  have hpoint : ∀ {behind}, Follows operandEnds behind → behind.head? ≠ some (.mark ".") :=
    fun h => h.head_ne (by decide)
  have hopen : ∀ {behind}, Follows operandEnds behind → behind.head? ≠ some (.mark "<") :=
    fun h => h.head_ne (by decide)
  have hclosing : ∀ behind, Follows typeEnds (.mark ">" :: behind) :=
    fun _ => ⟨.mark ">", by decide, rfl⟩
  induction t generalizing read size with
  | keyword word =>
    refine (reads_primaryType_name (by cases word <;> decide) (hpoint hbehind) (hopen hbehind)).bind ?_
    rintro _ ⟨site, rfl⟩
    exact hsuffixes n _ (Nat.le_of_succ_le_succ hn) .keyword
  | arrayLike =>
    have hlimit' : 1 < limit := by
      simp only [PlainType.lexemes, List.length_cons, List.length_nil] at hlimit
      omega
    refine (reads_primaryType_argument (by decide)
      (hword hlimit' (by decide) (hclosing _)) hlimit').bind ?_
    rintro _ ⟨site, inner, rfl⟩
    exact hsuffixes n _ (by simp only [PlainType.lexemes, List.length_cons] at hn; omega) .arrayLike
  | int32Array mayBeShared =>
    have hlimit' : 1 < limit := by
      simp only [PlainType.lexemes, List.length_cons, List.length_nil] at hlimit
      omega
    have hbuffer : PlainType.bufferName mayBeShared ∉ typeWords := by cases mayBeShared <;> decide
    refine (reads_primaryType_argument (by decide) (hword hlimit' hbuffer (hclosing _)) hlimit').bind ?_
    rintro _ ⟨site, inner, rfl⟩
    exact hsuffixes n _ (by simp only [PlainType.lexemes, List.length_cons] at hn; omega) .int32Array
  | array isReadonly element ih =>
    cases isReadonly with
    | true => exact absurd htight (by decide : 3 ≠ 4)
    | false =>
      have harray : ∀ n tree, size + 1 ≤ n → Writes element tree →
          Reads (typeSuffixes type n tree) (.mark "[" :: .mark "]" :: read) behind wanted := by
        intro n tree hsize htree
        obtain ⟨n, rfl⟩ : ∃ k, n = k + 1 := Nat.exists_eq_succ_of_ne_zero (by omega)
        exact reads_typeSuffixes_array (hsuffixes n _ (Nat.le_of_succ_le_succ hsize) (.array htree))
      have hbrackets : Follows operandEnds ((.mark "[" :: .mark "]" :: read) ++ behind) :=
        ⟨.mark "[", by decide, rfl⟩
      by_cases hinner : element.tightness < 4
      · have hlexemes : (PlainType.array false element).lexemes
            = .mark "(" :: (element.lexemes ++ [.mark ")"]) ++ [.mark "[", .mark "]"] := by
          rw [PlainType.lexemes, PlainType.enclosed, if_pos hinner]
        rw [hlexemes] at hn htype ⊢
        rw [List.append_assoc]
        simp only [List.length_append, List.length_cons, List.length_nil] at hn htype
        have hclosed : Follows typeEnds
            (.mark ")" :: ((.mark "[" :: .mark "]" :: read) ++ behind)) :=
              ⟨.mark ")", by decide, rfl⟩
        have helement := htype element hnormal (by omega) hclosed
        exact (reads_primaryType_inner helement).bind fun tree htree => harray n tree (by omega) htree
      · have hlexemes : (PlainType.array false element).lexemes
            = element.lexemes ++ [.mark "[", .mark "]"] := by
          rw [PlainType.lexemes, PlainType.enclosed, if_neg hinner]
        have hlength : (PlainType.array false element).lexemes.length = element.lexemes.length + 2 := by
          rw [hlexemes, List.length_append]
          rfl
        rw [hlexemes, List.append_assoc]
        exact ih (Nat.le_antisymm (PlainType.tightness_le element) (Nat.not_lt.mp hinner))
          hnormal (fun u hu _ => htype u hu (by omega)) (by omega) hbrackets harray (by omega)
  | orUndefined u => exact absurd htight (by decide : 1 ≠ 4)

/-- Words that operators in front of an operand are. -/
def operatorWords : List Text := ["keyof", "readonly", "unique", "infer"].map Text.ofString

/-- An operand without operators. -/
theorem reads_typeOperand_plain {wanted : TypeTree → Prop}
    (hhead : ∀ word ∈ operatorWords, (read ++ behind).head? ≠ some (.word word))
    (h : Reads (do typeSuffixes type limit (← primaryType type limit)) read behind wanted) :
    Reads (typeOperand type (limit + 1)) read behind wanted := by
  have hrefuses : ∀ word ∈ operatorWords, Refuses (keyword word) (read ++ behind) :=
    fun word hword => refuses_keyword (hhead word hword)
  refine .orElse_of_refuses (.bind (.bind (hrefuses "keyof" (by decide)) _) _) ?_
  refine .orElse_of_refuses (.bind (.bind (hrefuses "readonly" (by decide)) _) _) ?_
  refine .orElse_of_refuses (.bind (hrefuses "unique" (by decide)) _) ?_
  exact .orElse_of_refuses (.bind (hrefuses "infer" (by decide)) _) h

/-- An operand that cannot be written to. -/
theorem reads_typeOperand_readonly {wanted : TypeTree → Prop}
    (h : Reads (typeOperand type limit) read behind wanted) :
    Reads (typeOperand type (limit + 1)) (.word "readonly" :: read) behind
      fun tree => ∃ inner, tree = .readonly inner ∧ wanted inner := by
  refine .orElse_of_refuses
    (.bind (.bind (refuses_keyword (head_cons_ne (by decide))) _) _) (.orElse ?_)
  refine Reads.bind_last (.bind_cons reads_keyword fun _ _ => h) fun inner hinner =>
    .pure ⟨inner, rfl, hinner⟩

/-- A single operand is a series of them. -/
theorem reads_typeSeries {separator : Text} {operand : Reader TypeTree}
    {combine : List TypeTree → TypeTree}
    {wanted : TypeTree → Prop} (hstart : (read ++ behind).head? ≠ some (.mark separator))
    (hbehind : behind.head? ≠ some (.mark separator)) (hlimit : 0 < limit)
    (h : Reads operand read behind wanted) :
    Reads (typeSeries separator operand combine limit) read behind wanted := by
  obtain ⟨limit, rfl⟩ : ∃ k, limit = k + 1 := Nat.exists_eq_succ_of_ne_zero (by omega)
  refine bind_optionally_not (refuses_mark hstart) ?_
  have hitems : Reads (itemsBetween separator operand (limit + 1)) read behind
      fun trees => ∃ tree, trees = [tree] ∧ wanted tree :=
    h.bind_last fun tree htree => bind_has_not (refuses_mark hbehind) (.pure ⟨tree, rfl, htree⟩)
  refine hitems.bind_last ?_
  rintro _ ⟨tree, rfl, htree⟩
  exact .pure htree

/-- Two operands with a mark between them. -/
theorem reads_typeSeries_pair {separator : Text} {operand : Reader TypeTree}
    {combine : List TypeTree → TypeTree}
    {second : List Lexeme} {wanted wantedSecond : TypeTree → Prop}
    (hstart : (read ++ .mark separator :: (second ++ behind)).head? ≠ some (.mark separator))
    (hbehind : behind.head? ≠ some (.mark separator)) (hlimit : 1 < limit)
    (h : Reads operand read (.mark separator :: (second ++ behind)) wanted)
    (hsecond : Reads operand second behind wantedSecond) :
    Reads (typeSeries separator operand combine limit) (read ++ .mark separator :: second) behind
      fun tree => ∃ a b, tree = combine [a, b] ∧ wanted a ∧ wantedSecond b := by
  obtain ⟨limit, rfl⟩ : ∃ k, limit = k + 2 := Nat.exists_eq_add_of_le' hlimit
  refine bind_optionally_not (refuses_mark ?_) ?_
  · rw [List.append_assoc]
    exact hstart
  have hitems :
      Reads (itemsBetween separator operand (limit + 2)) (read ++ .mark separator :: second) behind
      fun trees => ∃ a b, trees = [a, b] ∧ wanted a ∧ wantedSecond b := by
    refine h.bind fun a ha => bind_has reads_mark ?_
    have hlast : Reads (itemsBetween separator operand (limit + 1)) second behind
        fun trees => ∃ b, trees = [b] ∧ wantedSecond b :=
      hsecond.bind_last fun b hb => bind_has_not (refuses_mark hbehind) (.pure ⟨b, rfl, hb⟩)
    refine hlast.bind_last ?_
    rintro _ ⟨b, rfl, hb⟩
    exact .pure ⟨a, b, rfl, ha, hb⟩
  refine hitems.bind_last ?_
  rintro _ ⟨a, b, rfl, ha, hb⟩
  exact .pure ⟨a, b, rfl, ha, hb⟩

/-- A type that is a union of intersections of operands. -/
theorem reads_wholeType {wanted : TypeTree → Prop}
    (hfunction : Refuses (functionType type limit) (read ++ behind))
    (hbehind : behind.head? ≠ some (.word "extends"))
    (h : Reads
      (typeSeries "|" (typeSeries "&" (typeOperand type limit) .intersection limit) .union limit)
      read behind wanted) : Reads (wholeType type limit) read behind wanted := by
  refine .orElse_of_refuses hfunction (h.bind_last fun tree htree => ?_)
  exact .orElse_of_refuses (.bind (refuses_keywordInLine hbehind) _) (.pure htree)

/-- An operand without operators that no brackets follow. -/
theorem reads_typeOperand_suffixed {t : PlainType} (htight : t.tightness = 4)
    (hnormal : t.isNormal strict = true)
    (hword : 1 < limit → ∀ {name} {behind : List Lexeme}, name ∉ typeWords → Follows typeEnds behind →
      Reads type [.word name] behind fun tree => ∃ site, tree = .name site [name] [])
    (htype : ∀ u : PlainType, u.isNormal strict = true → u.lexemes.length < t.lexemes.length →
      ∀ {behind : List Lexeme}, Follows typeEnds behind → Reads type u.lexemes behind (Writes u))
    (hlimit : t.lexemes.length ≤ limit) (hbehind : Follows memberEnds behind) :
    Reads (typeOperand type limit) t.lexemes behind (Writes t) := by
  have hpos := length_lexemes_pos t
  obtain ⟨limit, rfl⟩ : ∃ k, limit = k + 1 := Nat.exists_eq_succ_of_ne_zero (by omega)
  have hsuffixes : ∀ n tree, 0 ≤ n → Writes t tree →
      Reads (typeSuffixes type n tree) [] behind (Writes t) :=
    fun n tree _ htree =>
      (reads_typeSuffixes (hbehind.head_ne (by decide)) tree).imp fun _ h => h ▸ htree
  have hends : Follows operandEnds ([] ++ behind) := hbehind.mono (List.subset_cons_self _ _)
  have hoperand :=
    reads_suffixed t htight hnormal (fun hlimit' => hword (Nat.lt_succ_of_lt hlimit')) htype hlimit
    hends hsuffixes ((Nat.zero_add _).trans_le hlimit)
  rw [List.append_nil] at hoperand
  refine reads_typeOperand_plain ?_ hoperand
  intro word hword
  by_cases hreadonly : word = "readonly"
  · rw [hreadonly]
    exact head_lexemes_ne_readonly htight behind
  · refine head_lexemes_ne ?_ t behind
    have hall : ∀ word ∈ operatorWords, word ≠ "readonly" → .word word ∉ typeStarts := by decide
    exact hall word hword hreadonly

/-- **An operand**: a plain type that stands in a union as it is. -/
theorem reads_typeOperand {t : PlainType} (htight : 3 ≤ t.tightness)
    (hnormal : t.isNormal strict = true)
    (hword : 1 < limit → ∀ {name} {behind : List Lexeme}, name ∉ typeWords → Follows typeEnds behind →
      Reads type [.word name] behind fun tree => ∃ site, tree = .name site [name] [])
    (htype : ∀ u : PlainType, u.isNormal strict = true → u.lexemes.length < t.lexemes.length →
      ∀ {behind : List Lexeme}, Follows typeEnds behind → Reads type u.lexemes behind (Writes u))
    (hlimit : t.lexemes.length ≤ limit) (hbehind : Follows memberEnds behind) :
    Reads (typeOperand type limit) t.lexemes behind (Writes t) := by
  cases t with
  | keyword | arrayLike | int32Array =>
    exact reads_typeOperand_suffixed rfl hnormal hword htype hlimit hbehind
  | array isReadonly element =>
    cases isReadonly with
    | false => exact reads_typeOperand_suffixed rfl hnormal hword htype hlimit hbehind
    | true =>
      have hlength : (PlainType.array true element).lexemes.length
          = (PlainType.array false element).lexemes.length + 1 := rfl
      obtain ⟨limit, rfl⟩ : ∃ k, limit = k + 1 := Nat.exists_eq_succ_of_ne_zero (by omega)
      have hinner : Reads (typeOperand type limit) (PlainType.array false element).lexemes behind
          (Writes (.array false element)) :=
        reads_typeOperand_suffixed rfl hnormal (fun h => hword (Nat.lt_succ_of_lt h))
          (fun u hu hless => htype u hu (by omega)) (by omega) hbehind
      refine (reads_typeOperand_readonly hinner).imp ?_
      rintro _ ⟨inner, rfl, hinner⟩
      cases hinner with
      | array helement => exact .readonly helement
  | orUndefined u => exact absurd htight (by decide : ¬ 3 ≤ 1)

/-- A single name that a type is. -/
theorem reads_typeTree_word (hname : name ∉ typeWords) (hlimit : 1 < limit)
    (hbehind : Follows typeEnds behind) :
    Reads (typeTree limit) [.word name] behind fun tree => ∃ site, tree = .name site [name] [] := by
  obtain ⟨limit, rfl⟩ : ∃ k, limit = k + 2 := Nat.exists_eq_add_of_le' hlimit
  have hne : ∀ word ∈ typeWords, ([Lexeme.word name] ++ behind).head? ≠ some (Lexeme.word word) := by
    intro word hword
    refine head_cons_ne ?_
    rintro ⟨⟩
    exact hname hword
  have hoperator : operatorWords ⊆ typeWords := by decide
  have hmark : ∀ spelling, ([Lexeme.word name] ++ behind).head? ≠ some (Lexeme.mark spelling) :=
    fun _ => head_cons_ne nofun
  have hoperand : Reads (typeOperand (typeTree (limit + 1)) (limit + 1)) [.word name] behind
      fun tree => ∃ site, tree = .name site [name] [] := by
    refine reads_typeOperand_plain (fun word hword => hne word (hoperator hword)) ?_
    refine (reads_primaryType_name hname (hbehind.head_ne (by decide))
      (hbehind.head_ne (by decide))).bind_last ?_
    rintro _ ⟨site, rfl⟩
    exact (reads_typeSuffixes (hbehind.head_ne (by decide)) _).imp fun _ h => ⟨site, h⟩
  refine reads_wholeType
    (refuses_functionType_name (fun h => hname (by rw [h]; decide))
      (fun h => hname (by rw [h]; decide))
    _ _ _) (hbehind.head_ne (by decide)) ?_
  refine reads_typeSeries (hmark _) (hbehind.head_ne (by decide)) (Nat.succ_pos _) ?_
  exact reads_typeSeries (hmark _) (hbehind.head_ne (by decide)) (Nat.succ_pos _) hoperand

/-- **A plain type is read back from how it is written.** -/
theorem reads_typeTree {t : PlainType} (hnormal : t.isNormal strict = true)
    (hlimit : t.lexemes.length < limit)
    (hbehind : Follows typeEnds behind) : Reads (typeTree limit) t.lexemes behind (Writes t) := by
  induction limit using Nat.strong_induction_on generalizing t behind with
  | _ limit ih =>
    obtain ⟨limit, rfl⟩ : ∃ k, limit = k + 1 := Nat.exists_eq_succ_of_ne_zero (by omega)
    have hlength : t.lexemes.length ≤ limit := Nat.le_of_lt_succ hlimit
    have hword : 1 < limit → ∀ {name} {behind : List Lexeme}, name ∉ typeWords →
        Follows typeEnds behind →
        Reads (typeTree limit) [.word name] behind fun tree => ∃ site, tree = .name site [name] [] :=
      fun hlimit _ _ hname => reads_typeTree_word hname hlimit
    have htype : ∀ u : PlainType, u.isNormal strict = true → u.lexemes.length < limit →
        ∀ {behind}, Follows typeEnds behind → Reads (typeTree limit) u.lexemes behind (Writes u) :=
      fun u hu hless _ => ih limit (Nat.lt_succ_self _) hu hless
    have hmember : ∀ u : PlainType, u.isNormal strict = true → 3 ≤ u.tightness →
        u.lexemes.length ≤ limit →
        ∀ {behind}, Follows memberEnds behind →
          Reads (typeSeries "&" (typeOperand (typeTree limit) limit) .intersection limit)
            u.lexemes behind (Writes u) := by
      intro u hu htight hless behind hbehind
      refine reads_typeSeries (head_lexemes_ne (by decide) u behind) (hbehind.head_ne (by decide))
        ((length_lexemes_pos u).trans_le hless) ?_
      exact reads_typeOperand htight hu hword
        (fun v hv hless' => htype v hv (hless'.trans_le hless)) hless hbehind
    have hsingle : 3 ≤ t.tightness →
        Reads (typeSeries "|"
          (typeSeries "&" (typeOperand (typeTree limit) limit) .intersection limit) .union limit)
          t.lexemes behind (Writes t) := fun htight =>
      reads_typeSeries (head_lexemes_ne (by decide) t behind) (hbehind.head_ne (by decide))
        ((length_lexemes_pos t).trans_le hlength)
        (hmember t hnormal htight hlength (hbehind.mono (List.subset_cons_self _ _)))
    refine reads_wholeType (refuses_functionType t _ _ _) (hbehind.head_ne (by decide)) ?_
    cases t with
    | keyword | arrayLike | int32Array => exact hsingle (by decide : 3 ≤ 4)
    | array isReadonly element =>
      cases isReadonly with
      | true => exact hsingle (by decide : 3 ≤ 3)
      | false => exact hsingle (by decide : 3 ≤ 4)
    | orUndefined u =>
      obtain ⟨htakes, hu⟩ := Bool.and_eq_true_iff.mp hnormal
      have htight :=
        Nat.not_lt.mp (PlainType.tightness_of_takesUndefined (Bool.and_eq_true_iff.mp htakes).2)
      have hpos := length_lexemes_pos u
      have hless : u.lexemes.length + 2 ≤ limit := by
        rwa [PlainType.lexemes, List.length_append] at hlength
      have hundefined := hmember (.keyword .undefined) rfl (by decide) (by change 1 ≤ limit; omega)
        (hbehind.mono (List.subset_cons_self _ _))
      refine (reads_typeSeries_pair (head_lexemes_ne (by decide) u _)
        (hbehind.head_ne (by decide)) (by omega)
        (hmember u hu htight (by omega) ⟨.mark "|", by decide, rfl⟩) hundefined).imp ?_
      rintro _ ⟨first, _, rfl, hfirst, ⟨⟩⟩
      exact .orUndefined hfirst

end Reader

end Turnstile.Source
