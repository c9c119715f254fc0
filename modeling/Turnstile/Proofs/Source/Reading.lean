import Turnstile.Proofs.Source.Lines
import Turnstile.Source.Reader

/-! # What readers take off a line

* **`Reads`**: a reader takes some lexemes off the front of a line and leaves those behind them.
* **`Refuses`**: a reader fails in front of some lexemes.

There is one lemma for each way in which readers are put together, and for each of the readers that
look at a single token. -/

namespace Turnstile.Source

variable {α β : Type} {read behind more lexemes : List Lexeme}

/-- **A reader takes lexemes off a line** in front of others, and comes to what is wanted. -/
def Reads (reader : Reader α) (read behind : List Lexeme) (wanted : α → Prop) : Prop :=
  ∀ tokens, InLine tokens (read ++ behind) →
    ∃ a rest, reader tokens = some (a, rest) ∧ InLine rest behind ∧ wanted a

/-- **A reader fails** in front of lexemes. -/
def Refuses (reader : Reader α) (lexemes : List Lexeme) : Prop :=
  ∀ tokens, InLine tokens lexemes → reader tokens = none

namespace Refuses

theorem failure : Refuses (failure : Reader α) lexemes := fun _ _ => rfl

theorem bind {reader : Reader α} (h : Refuses reader lexemes) (next : α → Reader β) :
    Refuses (reader >>= next) lexemes := by
  intro tokens htokens
  change (reader tokens).bind _ = none
  rw [h tokens htokens]
  rfl

theorem orElse {reader other : Reader α} (h : Refuses reader lexemes) (hother : Refuses other lexemes) :
    Refuses (reader <|> other) lexemes := by
  intro tokens htokens
  change (reader tokens <|> other tokens) = none
  rw [h tokens htokens, hother tokens htokens]
  rfl

end Refuses

namespace Reads

variable {reader : Reader α} {wanted : α → Prop} {wantedNext : β → Prop}

theorem imp {wanted' : α → Prop} (h : Reads reader read behind wanted)
    (himp : ∀ a, wanted a → wanted' a) :
    Reads reader read behind wanted' := by
  intro tokens htokens
  obtain ⟨a, rest, heq, hrest, ha⟩ := h tokens htokens
  exact ⟨a, rest, heq, hrest, himp a ha⟩

theorem pure {a : α} (h : wanted a) : Reads (pure a) [] behind wanted :=
  fun tokens htokens => ⟨a, tokens, rfl, htokens, h⟩

/-- One reader after another one. -/
theorem bind {next : α → Reader β} (h : Reads reader read (more ++ behind) wanted)
    (hnext : ∀ a, wanted a → Reads (next a) more behind wantedNext) :
    Reads (reader >>= next) (read ++ more) behind wantedNext := by
  intro tokens htokens
  rw [List.append_assoc] at htokens
  obtain ⟨a, rest, heq, hrest, ha⟩ := h tokens htokens
  obtain ⟨b, rest', heq', hrest', hb⟩ := hnext a ha rest hrest
  refine ⟨b, rest', ?_, hrest', hb⟩
  change (reader tokens).bind _ = _
  rw [heq]
  exact heq'

/-- One reader after another one that takes a single lexeme off. -/
theorem bind_cons {lexeme : Lexeme} {next : α → Reader β}
    (h : Reads reader [lexeme] (more ++ behind) wanted)
    (hnext : ∀ a, wanted a → Reads (next a) more behind wantedNext) :
    Reads (reader >>= next) (lexeme :: more) behind wantedNext :=
  h.bind hnext

/-- One reader after another one that takes nothing off. -/
theorem bind_nil {next : α → Reader β} (h : Reads reader [] (read ++ behind) wanted)
    (hnext : ∀ a, wanted a → Reads (next a) read behind wantedNext) :
    Reads (reader >>= next) read behind wantedNext :=
  h.bind hnext

/-- One reader in front of another one that takes nothing off. -/
theorem bind_last {next : α → Reader β} (h : Reads reader read behind wanted)
    (hnext : ∀ a, wanted a → Reads (next a) [] behind wantedNext) :
    Reads (reader >>= next) read behind wantedNext := by
  rw [← List.append_nil read]
  exact bind h hnext

/-- A reader that fails behind what another one takes off. -/
theorem refuses_bind {next : α → Reader β} (h : Reads reader read behind wanted)
    (hnext : ∀ a, wanted a → Refuses (next a) behind) : Refuses (reader >>= next) (read ++ behind) := by
  intro tokens htokens
  obtain ⟨a, rest, heq, hrest, ha⟩ := h tokens htokens
  change (reader tokens).bind _ = none
  rw [heq]
  exact hnext a ha rest hrest

theorem orElse {other : Reader α} (h : Reads reader read behind wanted) :
    Reads (reader <|> other) read behind wanted := by
  intro tokens htokens
  obtain ⟨a, rest, heq, hrest, ha⟩ := h tokens htokens
  refine ⟨a, rest, ?_, hrest, ha⟩
  change (reader tokens <|> other tokens) = _
  rw [heq]
  rfl

/-- A reader stands in for another one that fails. -/
theorem orElse_of_refuses {other : Reader α} (h : Refuses other (read ++ behind))
    (hreader : Reads reader read behind wanted) : Reads (other <|> reader) read behind wanted := by
  intro tokens htokens
  obtain ⟨a, rest, heq, hrest, ha⟩ := hreader tokens htokens
  refine ⟨a, rest, ?_, hrest, ha⟩
  change (other tokens <|> reader tokens) = _
  rw [h tokens htokens]
  exact heq

theorem map (h : Reads reader read behind wanted) (f : α → β)
    (hf : ∀ a, wanted a → wantedNext (f a)) : Reads (f <$> reader) read behind wantedNext := by
  intro tokens htokens
  obtain ⟨a, rest, heq, hrest, ha⟩ := h tokens htokens
  refine ⟨f a, rest, ?_, hrest, hf a ha⟩
  change (reader tokens).bind _ = _
  rw [heq]
  rfl

end Reads

namespace Reader

variable {spelling name : Text}

/-! ## One token -/

theorem reads_mark : Reads (mark spelling) [.mark spelling] behind fun _ => True := by
  intro tokens htokens
  cases htokens with
  | cons hlexeme hrest => exact ⟨_, _, if_pos hlexeme.1, hrest, trivial⟩

theorem reads_keyword : Reads (keyword name) [.word name] behind fun _ => True := by
  intro tokens htokens
  cases htokens with
  | cons hlexeme hrest => exact ⟨_, _, if_pos hlexeme.1, hrest, trivial⟩

theorem reads_word : Reads word [.word name] behind fun found => found.1 = name := by
  intro tokens htokens
  cases htokens with
  | @cons token _ rest _ hlexeme hrest =>
    refine ⟨(name, token.site), rest, ?_, hrest, rfl⟩
    simp only [word, hlexeme.1]

theorem reads_next {lexeme : Lexeme} :
    Reads next [lexeme] behind fun token => token.lexeme = lexeme := by
  intro tokens htokens
  cases htokens with
  | cons hlexeme hrest => exact ⟨_, _, rfl, hrest, hlexeme.1⟩

/-- The next token, which stays: it does not open a line. -/
theorem reads_peek : Reads peek [] behind fun token =>
    token.map Token.lexeme = behind.head? ∧ ∀ t ∈ token, t.opensLine = false := by
  intro tokens htokens
  refine ⟨tokens.head?, tokens, rfl, htokens, ?_⟩
  cases htokens with
  | nil => exact ⟨rfl, nofun⟩
  | cons h _ =>
    refine ⟨congrArg some h.1, ?_⟩
    rintro t ⟨⟩
    exact h.2

theorem refuses_mark (h : lexemes.head? ≠ some (.mark spelling)) : Refuses (mark spelling) lexemes := by
  intro tokens htokens
  cases htokens with
  | nil => rfl
  | cons hlexeme _ => exact if_neg fun heq => h (congrArg some (hlexeme.1.symm.trans heq))

theorem refuses_keyword (h : lexemes.head? ≠ some (.word name)) : Refuses (keyword name) lexemes := by
  intro tokens htokens
  cases htokens with
  | nil => rfl
  | cons hlexeme _ => exact if_neg fun heq => h (congrArg some (hlexeme.1.symm.trans heq))

theorem refuses_keywordInLine (h : lexemes.head? ≠ some (.word name)) :
    Refuses (keywordInLine name) lexemes := by
  intro tokens htokens
  cases htokens with
  | nil => rfl
  | cons hlexeme _ =>
    refine if_neg fun heq => h (congrArg some ?_)
    exact hlexeme.1.symm.trans (of_decide_eq_true (Bool.and_eq_true_iff.mp heq).1)

theorem refuses_word (h : ∀ name, lexemes.head? ≠ some (.word name)) : Refuses word lexemes := by
  intro tokens htokens
  cases htokens with
  | nil => rfl
  | @cons token lexeme tokens lexemes hlexeme _ =>
    have hword : ∀ name, token.lexeme ≠ .word name := fun name heq =>
      h name (congrArg some (hlexeme.1.symm.trans heq))
    -- by the last equation of the reader, of which this is the condition
    simp only [word]

/-! ## Readers that may fail -/

variable {reader : Reader α} {wanted : α → Prop}

theorem reads_has (h : Reads reader read behind wanted) :
    Reads (has reader) read behind (· = true) := by
  intro tokens htokens
  obtain ⟨a, rest, heq, hrest, -⟩ := h tokens htokens
  refine ⟨true, rest, ?_, hrest, rfl⟩
  rw [has, heq]

theorem reads_has_not (h : Refuses reader behind) : Reads (has reader) [] behind (· = false) := by
  intro tokens htokens
  refine ⟨false, tokens, ?_, htokens, rfl⟩
  rw [has, h tokens htokens]

theorem reads_optionally (h : Reads reader read behind wanted) :
    Reads (optionally reader) read behind fun found => ∃ a, found = some a ∧ wanted a := by
  intro tokens htokens
  obtain ⟨a, rest, heq, hrest, ha⟩ := h tokens htokens
  refine ⟨some a, rest, ?_, hrest, a, rfl, ha⟩
  rw [optionally, heq]

theorem reads_optionally_not (h : Refuses reader behind) :
    Reads (optionally reader) [] behind (· = none) := by
  intro tokens htokens
  refine ⟨none, tokens, ?_, htokens, rfl⟩
  rw [optionally, h tokens htokens]

section

variable {next : Bool → Reader β} {nextOption : Option α → Reader β} {wantedNext : β → Prop}

/-- What was looked for is there. -/
theorem bind_has {lexeme : Lexeme} (h : Reads reader [lexeme] (more ++ behind) wanted)
    (hnext : Reads (next true) more behind wantedNext) :
    Reads (has reader >>= next) (lexeme :: more) behind wantedNext :=
  (reads_has h).bind (by rintro _ rfl; exact hnext)

/-- What was looked for is not there. -/
theorem bind_has_not (h : Refuses reader (read ++ behind))
    (hnext : Reads (next false) read behind wantedNext) :
    Reads (has reader >>= next) read behind wantedNext :=
  (reads_has_not h).bind_nil (by rintro _ rfl; exact hnext)

theorem refuses_has_not (h : Refuses reader lexemes) (hnext : Refuses (next false) lexemes) :
    Refuses (has reader >>= next) lexemes :=
  (reads_has_not h).refuses_bind (by rintro _ rfl; exact hnext)

theorem bind_optionally_not (h : Refuses reader (read ++ behind))
    (hnext : Reads (nextOption none) read behind wantedNext) :
    Reads (optionally reader >>= nextOption) read behind wantedNext :=
  (reads_optionally_not h).bind_nil (by rintro _ rfl; exact hnext)

end

theorem reads_sees (h : Reads reader read behind wanted) :
    Reads (sees reader) [] (read ++ behind) (· = true) := by
  intro tokens htokens
  obtain ⟨a, rest, heq, -⟩ := h tokens htokens
  refine ⟨true, tokens, ?_, htokens, rfl⟩
  rw [sees, heq]
  rfl

theorem reads_sees_of_refuses (h : Refuses reader behind) :
    Reads (sees reader) [] behind (· = false) := by
  intro tokens htokens
  refine ⟨false, tokens, ?_, htokens, rfl⟩
  rw [sees, h tokens htokens]
  rfl

theorem refuses_guard {condition : Prop} [Decidable condition] (h : ¬ condition)
    (next : Unit → Reader α)
    (lexemes : List Lexeme) : Refuses (guard condition >>= next) lexemes := by
  rw [guard, if_neg h]
  exact .bind .failure _

theorem reads_guard {condition : Prop} [Decidable condition] (h : condition) :
    Reads (guard condition) [] behind fun _ => True := by
  rw [guard, if_pos h]
  exact .pure trivial

/-! ## Given tokens -/

/-- A reader that goes on with what another one found. -/
theorem bind_eq_of_some {tokens rest : List Token} {a : α}
    (h : reader tokens = some (a, rest)) (next : α → Reader β) :
    (reader >>= next) tokens = next a rest := by
  change (reader tokens).bind _ = _
  rw [h]
  rfl

theorem orElse_eq_of_none {other : Reader α} {tokens : List Token} (h : reader tokens = none) :
    (reader <|> other) tokens = other tokens := by
  change (reader tokens <|> other tokens) = _
  rw [h]
  rfl

theorem orElse_eq_of_some {other : Reader α} {tokens rest : List Token} {a : α}
    (h : reader tokens = some (a, rest)) : (reader <|> other) tokens = some (a, rest) := by
  change (reader tokens <|> other tokens) = _
  rw [h]
  rfl

/-! ## Items with separators between them -/

/-- Items with a separator between them and a closing mark behind them. -/
def listed (separator closing : Text) : List (List Lexeme) → List Lexeme
  | [] => [.mark closing]
  | [last] => last ++ [.mark closing]
  | first :: second :: rest => first ++ .mark separator :: listed separator closing (second :: rest)

/-- There are at least as many lexemes as items, and more than in each of them. -/
theorem length_le_listed {separator closing : Text} (items : List (List Lexeme)) :
    items.length ≤ (listed separator closing items).length
      ∧ ∀ item ∈ items, item.length < (listed separator closing items).length := by
  induction items with
  | nil => exact ⟨Nat.zero_le _, nofun⟩
  | cons first rest ih =>
    obtain ⟨hcount, hlengths⟩ := ih
    cases rest with
    | nil =>
      rw [listed, List.length_append]
      exact ⟨Nat.le_add_left _ _, by rintro _ (_ | ⟨_, ⟨⟩⟩); exact Nat.lt_succ_self _⟩
    | cons second rest =>
      have hlength : (listed separator closing (first :: second :: rest)).length
          = first.length + ((listed separator closing (second :: rest)).length + 1) :=
            List.length_append
      rw [List.length_cons, hlength]
      refine ⟨by omega, ?_⟩
      rintro item (_ | ⟨_, hitem⟩)
      · omega
      · have := hlengths item hitem
        omega

/-- **Items are read one after another**, each by its own lexemes. -/
theorem reads_itemsUntil {ι : Type} {separator closing : Text} {item : Reader α}
    {spelling : ι → List Lexeme} {meant : ι → α → Prop} (hne : separator ≠ closing) (items : List ι)
    (hstart : ∀ i ∈ items, ∀ behind, (spelling i ++ behind).head? ≠ some (.mark closing))
    (hitem : ∀ i ∈ items, ∀ behind,
      behind.head? = some (.mark separator) ∨ behind.head? = some (.mark closing) →
      Reads item (spelling i) behind (meant i))
    {limit : Nat} (hlimit : items.length < limit) :
    Reads (itemsUntil closing [separator] item limit) (listed separator closing (items.map spelling))
      behind (List.Forall₂ meant items) := by
  induction items generalizing limit with
  | nil =>
    obtain ⟨limit, rfl⟩ : ∃ k, limit = k + 1 := Nat.exists_eq_succ_of_ne_zero (by omega)
    exact bind_has reads_mark (.pure .nil)
  | cons first rest ih =>
    obtain ⟨limit, rfl⟩ : ∃ k, limit = k + 1 := Nat.exists_eq_succ_of_ne_zero (by omega)
    have hfirst := hitem first List.mem_cons_self
    have hnot := hstart first List.mem_cons_self
    cases rest with
    | nil =>
      refine bind_has_not (refuses_mark ?_) ((hfirst _ (.inr rfl)).bind fun a ha => ?_)
      · change (spelling first ++ _ ++ behind).head? ≠ _
        rw [List.append_assoc]
        exact hnot _
      · exact bind_has reads_mark (.pure (.cons ha .nil))
    | cons second rest =>
      refine bind_has_not (refuses_mark ?_) ((hfirst _ (.inl rfl)).bind fun a ha => ?_)
      · change (spelling first ++ _ ++ behind).head? ≠ _
        rw [List.append_assoc]
        exact hnot _
      · refine bind_has_not (refuses_mark ?_) (reads_peek.bind_nil ?_)
        · rintro ⟨⟩
          exact hne rfl
        · rintro token ⟨htoken, -⟩
          obtain ⟨token, rfl, hlexeme⟩ := Option.map_eq_some_iff.mp htoken
          have hrest := ih (fun i hi => hstart i (.tail _ hi)) (fun i hi => hitem i (.tail _ hi))
            (Nat.lt_of_succ_lt_succ hlimit)
          simp only [hlexeme, List.contains_cons, BEq.rfl, Bool.true_or, if_true]
          exact reads_next.bind_cons fun _ _ => hrest.bind_last fun as has => .pure (.cons ha has)

end Reader

end Turnstile.Source
