import Mathlib.Data.List.Forall2
import Turnstile.Source.Type

/-! # Lines cut into tokens

What a text on one line is cut into.

* **`Cut`**: a text is cut into lexemes that mean something, one after another, whatever stands in
  front of it. There is one lemma for each kind of lexeme, with what must not follow it.
* **`InLine`**: tokens have the given lexemes, and none of them opens a line.
* **`exists_tokensOf`**: the tokens of a text that starts with a name are those that it is cut into, at
  any site. -/

namespace Turnstile.Source

/-! ## One lexeme -/

/-- The units that are marks by themselves, whatever follows: brackets, an opening brace, colons,
semicolons, commas and the closing angle bracket. -/
def plainMarks : Text := [0x28, 0x29, 0x5B, 0x5D, 0x7B, 0x3A, 0x3B, 0x2C, 0x3E]

/-- The units that are marks by themselves in front of a blank: the bar and the equality sign. -/
def blankMarks : Text := [0x7C, 0x3D]

/-- A name ends in front of a text. -/
def EndsName (rest : Text) : Prop := ∀ u ∈ rest.head?, isNamePart u = false

theorem isNameStart_of_isBlank {u : UInt16} (h : Text.isBlank u = true) : isNameStart u = false := by
  have hall : Text.blanks.all (fun u => !isNameStart u) = true := by decide
  have hnot := List.all_eq_true.mp hall u (List.contains_iff_mem.mp h)
  rwa [Bool.not_eq_true'] at hnot

theorem isBlank_of_isNameStart {u : UInt16} (h : isNameStart u = true) : Text.isBlank u = false := by
  rw [← Bool.not_eq_true]
  intro hblank
  rw [isNameStart_of_isBlank hblank] at h
  exact absurd h nofun

theorem isLineEnd_of_isNameStart {u : UInt16} (h : isNameStart u = true) : isLineEnd u = false := by
  rw [← Bool.not_eq_true]
  intro hend
  have hblank : Text.isBlank u = true := by
    simp only [isLineEnd, Bool.or_eq_true, decide_eq_true_eq] at hend
    obtain ((rfl | rfl) | rfl) | rfl := hend <;> rfl
  rw [isBlank_of_isNameStart h] at hblank
  exact absurd hblank nofun

theorem exists_cons_of_isName {name : Text} (h : isName name = true) :
    ∃ u more, name = u :: more ∧ isNameStart u = true ∧ ∀ v ∈ more, isNamePart v = true := by
  cases name with
  | nil => exact absurd h nofun
  | cons u more =>
    obtain ⟨hstart, hmore⟩ := Bool.and_eq_true_iff.mp h
    exact ⟨u, more, rfl, hstart, List.all_eq_true.mp hmore⟩

theorem length_pos_of_isName {name : Text} (h : isName name = true) : 0 < name.length := by
  obtain ⟨u, more, rfl, -⟩ := exists_cons_of_isName h
  exact Nat.succ_pos _

namespace Lexeme

variable {b : Bool} {rest : Text}

theorem next?_blank : next? b (0x20 :: rest) = some (.blank, rest) := rfl

/-- **A name** is taken off as a whole. -/
theorem next?_name {name : Text} (hname : isName name = true) (hends : EndsName rest) :
    next? b (name ++ rest) = some (.word name, rest) := by
  obtain ⟨u, more, rfl, hstart, hmore⟩ := exists_cons_of_isName hname
  have hrest : rest.takeWhile isNamePart = [] ∧ rest.dropWhile isNamePart = rest := by
    cases rest with
    | nil => exact ⟨rfl, rfl⟩
    | cons v rest =>
      have hv : isNamePart v = false := hends v rfl
      exact ⟨List.takeWhile_cons_of_neg (by rw [hv]; nofun),
        List.dropWhile_cons_of_neg (by rw [hv]; nofun)⟩
  rw [List.cons_append, next?.eq_def]
  simp only [isLineEnd_of_isNameStart hstart, isBlank_of_isNameStart hstart, hstart, Bool.true_or,
    Bool.false_eq_true, if_false, if_true]
  rw [List.takeWhile_append_of_pos hmore, List.dropWhile_append_of_pos hmore, hrest.1, hrest.2,
    List.append_nil]

theorem next?_plainMark {u : UInt16} (h : u ∈ plainMarks) :
    next? b (u :: rest) = some (.mark [u], rest) := by
  simp only [plainMarks, List.mem_cons, List.not_mem_nil, or_false] at h
  obtain rfl | rfl | rfl | rfl | rfl | rfl | rfl | rfl | rfl := h <;> rfl

/-- A question mark in front of a colon. -/
theorem next?_question : next? b (0x3F :: 0x3A :: rest) = some (.mark "?", 0x3A :: rest) := rfl

theorem next?_inBlanks {u : UInt16} (h : u ∈ blankMarks) :
    next? b (u :: 0x20 :: rest) = some (.mark [u], 0x20 :: rest) := by
  simp only [blankMarks, List.mem_cons, List.not_mem_nil, or_false] at h
  obtain rfl | rfl := h <;> rfl

theorem next?_dots : next? b (("..." : Text) ++ rest) = some (.mark "...", rest) := rfl

end Lexeme

/-! ## A whole line -/

/-- Whether a lexeme means something. -/
def Lexeme.isToken : Lexeme → Bool
  | .blank => false
  | .newline => false
  | .comment _ => false
  | _ => true

/-- **A text is cut into lexemes** up to its last part, apart from the blanks between them. -/
inductive Cut (last : Text) : Text → List Lexeme → Prop where
  | nil : Cut last last []
  | blank {rest : Text} {lexemes : List Lexeme} (h : Cut last rest lexemes) :
    Cut last (0x20 :: rest) lexemes
  | cons {text rest : Text} {lexeme : Lexeme} {lexemes : List Lexeme}
      (hnext : ∀ b, Lexeme.next? b text = some (lexeme, rest)) (htoken : lexeme.isToken = true)
      (hless : rest.length < text.length) (h : Cut last rest lexemes) :
      Cut last text (lexeme :: lexemes)

/-- Tokens go on with a line, and have the given lexemes. -/
def InLine (tokens : List Token) (lexemes : List Lexeme) : Prop :=
  List.Forall₂ (fun token lexeme => token.lexeme = lexeme ∧ token.opensLine = false) tokens lexemes

theorem InLine.exists_cons {tokens : List Token} {lexeme : Lexeme} {lexemes : List Lexeme}
    (h : InLine tokens (lexeme :: lexemes)) :
    ∃ site rest, tokens = ⟨lexeme, site, false⟩ :: rest ∧ InLine rest lexemes := by
  cases h with
  | @cons token _ rest _ hfirst hrest =>
    obtain ⟨rfl, hline⟩ := hfirst
    exact ⟨token.site, rest, by rw [← hline], hrest⟩

theorem InLine.exists_append {tokens : List Token} {front behind : List Lexeme}
    (h : InLine tokens (front ++ behind)) :
    ∃ first rest, tokens = first ++ rest ∧ InLine first front ∧ InLine rest behind := by
  induction front generalizing tokens with
  | nil => exact ⟨[], tokens, rfl, .nil, h⟩
  | cons lexeme front ih =>
    cases h with
    | @cons token _ _ _ htoken hrest =>
      obtain ⟨first, rest, rfl, hfirst, hbehind⟩ := ih hrest
      exact ⟨token :: first, rest, rfl, .cons htoken hfirst, hbehind⟩

/-- The tokens of a text that goes on with a line. -/
theorem Cut.inLine {last text : Text} {lexemes : List Lexeme} (h : Cut last text lexemes) {limit : Nat}
    (hlimit : text.length ≤ limit) (b : Bool) (site : Site) :
    ∃ tokens b' site' limit', tokensOf false (piecesFrom b site limit text)
        = tokens ++ tokensOf false (piecesFrom b' site' limit' last)
      ∧ InLine tokens lexemes := by
  induction h generalizing limit b site with
  | nil => exact ⟨[], b, site, limit, rfl, .nil⟩
  | @blank rest _ _ ih =>
    cases limit with
    | zero => exact absurd hlimit (Nat.not_succ_le_zero _)
    | succ limit =>
      rw [piecesFrom, Lexeme.next?_blank, tokensOf]
      exact ih (Nat.le_of_succ_le_succ hlimit) _ _
  | @cons text rest lexeme _ hnext htoken hless _ ih =>
    cases limit with
    | zero => omega
    | succ limit =>
      rw [piecesFrom, hnext]
      have hrest := ih (Nat.le_of_lt_succ (Nat.lt_of_lt_of_le hless hlimit))
      cases lexeme with
      | blank | newline | comment => exact absurd htoken nofun
      | _ =>
        obtain ⟨tokens, b', site', limit', heq, hinLine⟩ := hrest _ _
        exact ⟨_ :: tokens, b', site', limit', congrArg (List.cons _) heq, .cons ⟨rfl, rfl⟩ hinLine⟩

namespace Cut

variable {last rest : Text} {lexemes : List Lexeme}

theorem name (name : Text) (hname : isName name = true) (hends : EndsName rest)
    (h : Cut last rest lexemes) : Cut last (name ++ rest) (.word name :: lexemes) := by
  refine .cons (fun b => Lexeme.next?_name hname hends) rfl ?_ h
  rw [List.length_append]
  exact Nat.lt_add_of_pos_left (length_pos_of_isName hname)

theorem plainMark {u : UInt16} (hu : u ∈ plainMarks) (h : Cut last rest lexemes) :
    Cut last (u :: rest) (.mark [u] :: lexemes) :=
  .cons (fun _ => Lexeme.next?_plainMark hu) rfl (Nat.lt_succ_self _) h

theorem question (h : Cut last (0x3A :: rest) lexemes) :
    Cut last (0x3F :: 0x3A :: rest) (.mark "?" :: lexemes) :=
  .cons (fun _ => Lexeme.next?_question) rfl (Nat.lt_succ_self _) h

/-- A mark in front of a blank. -/
theorem inBlanks {u : UInt16} (hu : u ∈ blankMarks) (h : Cut last (0x20 :: rest) lexemes) :
    Cut last (u :: 0x20 :: rest) (.mark [u] :: lexemes) :=
  .cons (fun _ => Lexeme.next?_inBlanks hu) rfl (Nat.lt_succ_self _) h

theorem dots (h : Cut last rest lexemes) : Cut last (("..." : Text) ++ rest) (.mark "..." :: lexemes) :=
  .cons (fun _ => Lexeme.next?_dots) rfl
    (by rw [List.length_append]; exact Nat.lt_add_of_pos_left (by decide)) h

end Cut

theorem endsName_cons {u : UInt16} (h : isNamePart u = false) (rest : Text) : EndsName (u :: rest) := by
  rintro v hv
  rwa [← Option.some.inj (Option.mem_def.mp hv)]

/-- What a text that starts with a name is cut into, at any site. -/
theorem exists_tokensOf {name rest last : Text} {lexemes : List Lexeme} (hname : isName name = true)
    (hends : EndsName rest) (h : Cut last rest lexemes) (site : Site) :
    ∃ behind tail,
      tokensOf true (pieces site (name ++ rest)) = ⟨.word name, site, true⟩ :: (behind ++ tail)
        ∧ InLine behind lexemes ∧ (last = [] → tail = []) := by
  have hlength : (name ++ rest).length = name.length - 1 + rest.length + 1 := by
    rw [List.length_append]
    have := length_pos_of_isName hname
    omega
  obtain ⟨behind, b, site', limit, heq, hinLine⟩ :=
    h.inLine (Nat.le_add_left _ (name.length - 1)) _ (site.behind (.word name) (name ++ rest) rest)
  refine ⟨behind, tokensOf false (piecesFrom b site' limit last), ?_, hinLine, ?_⟩
  · rw [pieces, hlength, piecesFrom, Lexeme.next?_name hname hends]
    exact congrArg (List.cons _) heq
  · rintro rfl
    cases limit <;> rfl

/-- **The tokens of a line** are those that it is cut into; the first of them is a name here. -/
theorem exists_tokens {name rest : Text} {lexemes : List Lexeme} (hname : isName name = true)
    (hends : EndsName rest) (h : Cut [] rest lexemes) :
    ∃ site behind, tokens (name ++ rest) = ⟨.word name, site, true⟩ :: behind
      ∧ InLine behind lexemes := by
  have hheader : withoutHeader (name ++ rest) = name ++ rest := by
    refine if_neg fun hstarts => ?_
    obtain ⟨u, more, rfl, hstart, -⟩ := exists_cons_of_isName hname
    obtain rfl : (0x23 : UInt16) = u := eq_of_beq (Bool.and_eq_true_iff.mp hstarts).1
    exact absurd hstart (by decide)
  rw [tokens, sourcePieces, hheader]
  obtain ⟨behind, tail, heq, hinLine, htail⟩ := exists_tokensOf hname hends h _
  rw [htail rfl, List.append_nil] at heq
  exact ⟨_, behind, heq, hinLine⟩

end Turnstile.Source
