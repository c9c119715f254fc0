import Turnstile.Proofs.Source.BasicTypes

/-! # Where the text of a type shows undefined

The text of a basic type, cut at its bars, and `undefined` among the parts.

* **`SourceType.ShowsUndefined`** tells from a type where its text shows `undefined`, inside a text
  that may have a bar in front of it and one behind it.
* **`SourceType.tellsText_of_isBasic`** says that it tells so rightly, by induction on the type with one
  lemma for each sort of text. -/

namespace Turnstile.Source

open Text (bar isMark showsUndefined_mark showsUndefined_append_mark showsUndefined_mark_append
  showsUndefined_of_not_mem not_showsUndefined_of_not_mem showsUndefined_join_comma
  showsUndefined_join_closed showsUndefined_bar)

/-! ## Texts of parts -/

/-- A parameter as it is written inside a type. -/
def FormalType.toText (f : FormalType) : Text :=
  (if f.isRest then "..." else "") ++ f.name ++ (if f.isOptional && !f.isRest then "?" else "") ++ ": "
    ++ f.shownType.toText

/-- A type parameter as it is written. -/
def TypeFormalType.toText (f : TypeFormalType) : Text :=
  (if f.isConstant then "const " else "") ++ f.name
    ++ SourceType.behindText false " extends " f.bound ++ SourceType.behindText false " = " f.default

/-- A member as it is written, without the semicolon. -/
def MemberType.toText : MemberType → Text
  | .property name isOptional isReadonly type =>
    (if isReadonly then "readonly " else "") ++ memberText name ++ (if isOptional then "?" else "")
      ++ ": " ++ type.toText
  | .method name isOptional c =>
    memberText name ++ (if isOptional then "?" else "") ++ SourceType.callText false ": " c
  | .call c => SourceType.callText false ": " c
  | .construct c => "new " ++ SourceType.callText false ": " c
  | .index name isReadonly key type =>
    (if isReadonly then "readonly " else "") ++ "[" ++ name ++ ": " ++ key.toText ++ "]: "
      ++ type.toText

namespace SourceType

theorem textsOf_eq_map (needed : Nat) (types : List SourceType) :
    textsOf false needed types = types.map fun t => enclose needed t.tightness t.toText := by
  induction types with
  | nil => rfl
  | cons t rest ih =>
    rw [textsOf, ih]
    rfl

/-- At a place that asks for nothing no text is put in parentheses. -/
theorem textsOf_zero (types : List SourceType) :
    textsOf false 0 types = types.map SourceType.toText := by
  rw [textsOf_eq_map]
  rfl

theorem formalTexts_eq_map (formals : List FormalType) :
    formalTexts false formals = formals.map FormalType.toText := by
  induction formals with
  | nil => rfl
  | cons f rest ih =>
    obtain ⟨name, isOptional, isRest, type, declared, hasDefault⟩ := f
    rw [formalTexts, ih]
    cases hasDefault <;> rfl

theorem typeFormalTexts_eq_map (typeFormals : List TypeFormalType) :
    typeFormalTexts false typeFormals = typeFormals.map TypeFormalType.toText := by
  induction typeFormals with
  | nil => rfl
  | cons f rest ih =>
    obtain ⟨home, name, isConstant, bound, default⟩ := f
    rw [typeFormalTexts, ih]
    rfl

theorem receiverTexts_eq_map (receiver : Option SourceType) :
    receiverTexts false receiver = receiver.toList.map fun t => ("this: " : Text) ++ t.toText := by
  cases receiver <;> rfl

theorem callTexts_eq_map (calls : List CallType) :
    callTexts false calls = (calls.map (callText false ": ")).map fun t : Text => t ++ ";" := by
  induction calls with
  | nil => rfl
  | cons c rest ih =>
    rw [callTexts, ih]
    rfl

theorem memberTexts_eq_map (members : List MemberType) :
    memberTexts false members = (members.map MemberType.toText).map fun t : Text => t ++ ";" := by
  induction members with
  | nil => rfl
  | cons m rest ih =>
    rw [List.map_cons, List.map_cons, ← ih]
    cases m <;> rfl

/-- Several ways to be called are written like a record. -/
theorem overloads_toText {calls : List CallType} (hseveral : ∀ c, calls ≠ [c]) :
    toText (.callable calls)
      = ("\x7b " : Text)
        ++ Text.join " " ((calls.map (callText false ": ")).map fun t : Text => t ++ ";")
        ++ " \x7d" := by
  rw [toText, ← callTexts_eq_map]
  match calls with
  | [] => rfl
  | [c] => exact absurd rfl (hseveral c)
  | _ :: _ :: _ => rfl

theorem named_toText (home : Home) (name : Text) (arguments : List SourceType) :
    toText (.named home name arguments) = name ++ bracketed (textsOf false 0 arguments) := by
  rw [toText, textOf, if_neg Bool.false_ne_true, List.append_nil]

/-- A way to be called that gives a type. -/
theorem callText_eq {c : CallType} (arrow : Text) (h : c.givesType = true) :
    callText false arrow c
      = bracketed (c.typeFormals.map TypeFormalType.toText) ++ "("
        ++ Text.join ", " (receiverTexts false c.receiver ++ c.formals.map FormalType.toText) ++ ")"
        ++ arrow ++ c.result.toText := by
  obtain ⟨typeFormals, receiver, formals, result, predicate, isSynthetic⟩ := c
  cases predicate with
  | some p => exact absurd h Bool.noConfusion
  | none =>
    rw [callText, typeFormalTexts_eq_map, formalTexts_eq_map]
    rfl

/-! ## What a type says of its text -/

/-- **Where the text of a type shows `undefined`**: in a quoted text; at its end, where the text ends
in a bar and `undefined`; and between two bars around it if it is `undefined` itself. -/
def ShowsUndefined (before after : Bool) (type : SourceType) : Prop :=
  type.QuotesUndefined ∨ (after = true ∧ type.EndsInUndefined)
    ∨ (before = true ∧ after = true ∧ type = .undefined)

/-- Whether a type tells rightly where its text shows `undefined`. -/
def TellsText (type : SourceType) : Prop :=
  ∀ before after, Text.ShowsUndefined before after type.toText ↔ type.ShowsUndefined before after

variable {type : SourceType} {types : List SourceType} {before after : Bool}

theorem TellsText.inside (h : type.TellsText) (before : Bool) :
    Text.ShowsUndefined before false type.toText ↔ type.QuotesUndefined := by
  simp [h before false, ShowsUndefined]

theorem TellsText.last (h : type.TellsText) (after : Bool) :
    Text.ShowsUndefined false after type.toText
      ↔ type.QuotesUndefined ∨ after = true ∧ type.EndsInUndefined := by
  simp [h false after, ShowsUndefined]

/-- A text that ends in a bar and `undefined` is put in parentheses wherever a member of a union or
an element is. -/
theorem EndsInUndefined.tightness_lt (h : type.EndsInUndefined) : type.tightness < 3 := by
  cases h with
  | union => exact Nat.lt_of_lt_of_le Nat.one_lt_two (Nat.le_succ 2)
  | result => exact Nat.zero_lt_succ 2

/-! ## Texts in brackets -/

/-- A text that may be in parentheses, with no bar behind it. -/
theorem showsUndefined_enclose (h : type.TellsText) (needed : Nat) :
    Text.ShowsUndefined before false (enclose needed type.tightness type.toText)
      ↔ type.QuotesUndefined := by
  have hopen : isMark "(" = true := by decide
  have hclose : isMark ")" = true := by decide
  rw [enclose]
  split
  · rw [showsUndefined_append_mark hclose, showsUndefined_mark_append hopen, h.inside]
  · exact h.inside before

/-- **A member of a union**: what ends in a bar and `undefined` is in parentheses. -/
theorem showsUndefined_member (h : type.TellsText) :
    Text.ShowsUndefined before after (enclose 3 type.tightness type.toText)
      ↔ type.QuotesUndefined ∨ (before = true ∧ after = true ∧ type = .undefined) := by
  have hopen : isMark "(" = true := by decide
  have hclose : isMark ")" = true := by decide
  rw [enclose]
  split
  · next hloose =>
    have htype : type ≠ .undefined := by
      rintro rfl
      exact absurd hloose (by decide)
    rw [showsUndefined_append_mark hclose, showsUndefined_mark_append hopen, h.inside]
    simp [htype]
  · next htight =>
    -- Without parentheses the type holds together too tightly to end in a bar and `undefined`.
    have hends : ¬ type.EndsInUndefined := fun hends => htight hends.tightness_lt
    simp [h before after, ShowsUndefined, hends]

/-- Texts in angle brackets behind another text. -/
theorem showsUndefined_bracketed (front : Text) (texts : List Text) :
    Text.ShowsUndefined before false (front ++ bracketed texts)
      ↔ Text.ShowsUndefined before false front
        ∨ ∃ t ∈ texts, Text.ShowsUndefined false false t := by
  have hopen : isMark "<" = true := by decide
  have hclose : isMark ">" = true := by decide
  cases texts with
  | nil => simp [bracketed]
  | cons t rest =>
    have hbracketed : bracketed (t :: rest) = ("<" : Text) ++ Text.join ", " (t :: rest) ++ ">" := rfl
    rw [hbracketed, ← List.append_assoc, showsUndefined_append_mark hclose, ← List.append_assoc,
      showsUndefined_mark hopen, showsUndefined_join_comma]

/-! ## Parameters -/

/-- A word that may stand in front of a text, and separates. -/
theorem showsUndefined_optional {word : String} {t : Text} (hmark : isMark word = true)
    (isThere : Bool) :
    Text.ShowsUndefined false false (Text.ofString (if isThere then word else "") ++ t)
      ↔ Text.ShowsUndefined false false t := by
  cases isThere with
  | false => rfl
  | true => exact showsUndefined_mark_append hmark

/-- A word that may stand behind a text, and separates. -/
theorem showsUndefined_append_optional {word : String} {t : Text} (hmark : isMark word = true)
    (isThere : Bool) :
    Text.ShowsUndefined before false (t ++ Text.ofString (if isThere then word else ""))
      ↔ Text.ShowsUndefined before false t := by
  cases isThere with
  | false => exact iff_of_eq (congrArg _ (List.append_nil t))
  | true => exact showsUndefined_append_mark hmark

theorem showsUndefined_formal {f : FormalType} (h : f.shownType.TellsText) :
    Text.ShowsUndefined false false f.toText
      ↔ Text.ShowsUndefined false false f.name ∨ f.shownType.QuotesUndefined := by
  have hdots : isMark "..." = true := by decide
  have hsign : isMark "?" = true := by decide
  have hcolon : isMark ": " = true := by decide
  rw [FormalType.toText, showsUndefined_mark hcolon, h.inside, showsUndefined_append_optional hsign,
    showsUndefined_optional hdots]

/-- A type behind some words, if there is one. -/
theorem showsUndefined_behind {words : Text} (hmark : isMark words = true) (front : Text)
    {type : Option SourceType} (h : ∀ t ∈ type.toList, t.TellsText) :
    Text.ShowsUndefined false false (front ++ behindText false words type)
      ↔ Text.ShowsUndefined false false front ∨ ∃ t ∈ type.toList, t.QuotesUndefined := by
  cases type with
  | none => simp [behindText]
  | some t =>
    have ht : t.TellsText := h t (List.mem_singleton_self t)
    rw [behindText, ← List.append_assoc, showsUndefined_mark hmark, ← toText, ht.inside]
    simp

theorem showsUndefined_typeFormal {f : TypeFormalType}
    (h : ∀ t ∈ f.bound.toList ++ f.default.toList, t.TellsText) :
    Text.ShowsUndefined false false f.toText
      ↔ Text.ShowsUndefined false false f.name
        ∨ ∃ t ∈ f.bound.toList ++ f.default.toList, t.QuotesUndefined := by
  have hconstant : isMark "const " = true := by decide
  have hbound : isMark " extends " = true := by decide
  have hdefault : isMark " = " = true := by decide
  rw [List.forall_mem_append] at h
  rw [TypeFormalType.toText, showsUndefined_behind hdefault _ h.2, showsUndefined_behind hbound _ h.1,
    showsUndefined_optional hconstant, or_assoc]
  simp only [List.mem_append, or_and_right, exists_or]

/-! ## Ways to be called and members -/

variable {c : CallType} {m : MemberType}

theorem showsUndefined_receiver {receiver : Option SourceType}
    (h : ∀ t ∈ receiver.toList, t.TellsText) :
    (∃ t ∈ receiverTexts false receiver, Text.ShowsUndefined false false t)
      ↔ ∃ t ∈ receiver.toList, t.QuotesUndefined := by
  have hthis : isMark "this: " = true := by decide
  simp only [receiverTexts_eq_map, List.mem_map, exists_exists_and_eq_and]
  refine exists_congr fun t => and_congr_right fun ht => ?_
  rw [showsUndefined_mark_append hthis, (h t ht).inside]

/-- **A way to be called behind another text**: what its type parameters, its parameters and its
result quote, and the end of its result. -/
theorem showsUndefined_callText {front arrow : Text} (harrow : isMark arrow = true)
    (hgives : c.givesType = true) (h : ∀ part ∈ c.parts, part.TellsText) :
    Text.ShowsUndefined before after (front ++ callText false arrow c)
      ↔ Text.ShowsUndefined before false front ∨ QuotesIn c.words c.parts
        ∨ (after = true ∧ c.result.EndsInUndefined) := by
  have hopen : isMark "(" = true := by decide
  have hclose : isMark ")" = true := by decide
  simp only [CallType.parts, List.forall_mem_append, List.forall_mem_map, List.forall_mem_flatMap,
    List.forall_mem_singleton] at h
  obtain ⟨⟨⟨htypeFormals, hreceiver⟩, hformals⟩, hresult⟩ := h
  have hbounds : (∃ f ∈ c.typeFormals, Text.ShowsUndefined false false f.toText)
      ↔ ∃ f ∈ c.typeFormals, Text.ShowsUndefined false false f.name
          ∨ ∃ t ∈ f.bound.toList ++ f.default.toList, t.QuotesUndefined :=
    exists_congr fun f => and_congr_right fun hf =>
      showsUndefined_typeFormal (List.forall_mem_append.mpr (htypeFormals f hf))
  have hparameters : (∃ f ∈ c.formals, Text.ShowsUndefined false false f.toText)
      ↔ ∃ f ∈ c.formals,
          Text.ShowsUndefined false false f.name ∨ f.shownType.QuotesUndefined :=
    exists_congr fun f => and_congr_right fun hf => showsUndefined_formal (hformals f hf)
  have hinside : Text.ShowsUndefined before false
        (front ++ bracketed (c.typeFormals.map TypeFormalType.toText) ++ "("
          ++ Text.join ", " (receiverTexts false c.receiver ++ c.formals.map FormalType.toText) ++ ")")
      ↔ Text.ShowsUndefined before false front
        ∨ (∃ f ∈ c.typeFormals, Text.ShowsUndefined false false f.toText)
        ∨ (∃ t ∈ c.receiver.toList, t.QuotesUndefined)
        ∨ ∃ f ∈ c.formals, Text.ShowsUndefined false false f.toText := by
    rw [showsUndefined_append_mark hclose, showsUndefined_mark hopen, showsUndefined_bracketed,
      showsUndefined_join_comma]
    simp only [List.mem_append, or_and_right, exists_or, showsUndefined_receiver hreceiver,
      List.mem_map, exists_exists_and_eq_and, or_assoc]
  -- The arrow separates the result from all that is in brackets, and the result is written last, so
  -- it alone can be followed by a bar.
  rw [callText_eq arrow hgives]
  simp only [← List.append_assoc]
  rw [showsUndefined_mark harrow, hresult.last, hinside, hbounds, hparameters]
  simp only [QuotesIn, CallType.words, CallType.parts, List.mem_append, List.mem_map,
    List.mem_flatMap, List.mem_singleton]
  grind

/-- **A member**: its name, quoted or not, and what its types quote. -/
theorem showsUndefined_memberText (hgives : m.givesTypes = true)
    (h : ∀ part ∈ m.parts, part.TellsText) :
    Text.ShowsUndefined false false m.toText ↔ QuotesIn m.words m.parts := by
  have hreadonly : isMark "readonly " = true := by decide
  have hsign : isMark "?" = true := by decide
  have hcolon : isMark ": " = true := by decide
  have hopen : isMark "[" = true := by decide
  have hclose : isMark "]: " = true := by decide
  have hnew : ¬ Text.ShowsUndefined false false "new " :=
    not_showsUndefined_of_not_mem (by decide)
  cases m with
  | property name isOptional isReadonly type =>
    have htype : type.TellsText := h type (List.mem_singleton_self type)
    rw [MemberType.toText, showsUndefined_mark hcolon, htype.inside,
      showsUndefined_append_optional hsign, showsUndefined_optional hreadonly]
    simp [MemberType.words, MemberType.parts, QuotesIn]
  | method name isOptional c =>
    rw [MemberType.toText, showsUndefined_callText hcolon hgives h,
      showsUndefined_append_optional hsign]
    simp [MemberType.words, MemberType.parts, quotesIn_cons]
  | call c =>
    rw [MemberType.toText, ← List.nil_append (callText _ _ _),
      showsUndefined_callText hcolon hgives h]
    simp [MemberType.words, MemberType.parts]
  | construct c =>
    rw [MemberType.toText, showsUndefined_callText hcolon hgives h]
    simp [MemberType.words, MemberType.parts, hnew]
  | index name isReadonly key type =>
    have hkey : key.TellsText := h key (List.mem_cons_self ..)
    have htype : type.TellsText := h type (List.mem_cons_of_mem _ (List.mem_singleton_self type))
    rw [MemberType.toText, showsUndefined_mark hclose, htype.inside, showsUndefined_mark hcolon,
      hkey.inside, List.append_assoc, showsUndefined_optional hreadonly,
      showsUndefined_mark_append hopen]
    simp [MemberType.words, MemberType.parts, QuotesIn, or_assoc]

/-! ## Types -/

/-- A type that is not `undefined` and does not end in it shows what it quotes. -/
theorem TellsText.of_quotesIn (hends : ¬ type.EndsInUndefined) (hself : type ≠ .undefined)
    (h : ∀ before after, Text.ShowsUndefined before after type.toText
      ↔ QuotesIn type.words type.parts) : type.TellsText := by
  intro before after
  rw [h, ShowsUndefined, quotesUndefined_iff]
  simp [hends, hself]

/-- A word without bars that is not `undefined`. -/
theorem TellsText.of_word (hbar : bar ∉ type.toText) (htrim : type.toText.trim ≠ "undefined")
    (hends : ¬ type.EndsInUndefined) (hwords : type.words = []) (hparts : type.parts = []) :
    type.TellsText := by
  have hself : type ≠ .undefined := by
    rintro rfl
    exact htrim (by decide)
  refine .of_quotesIn hends hself fun before after => ?_
  rw [showsUndefined_of_not_mem hbar, hwords, hparts]
  simp [htrim, quotesIn_nil]

theorem tellsText_undefined : TellsText .undefined := by
  intro before after
  have hbar : bar ∉ toText .undefined := by decide
  have htrim : (toText .undefined).trim = "undefined" := by decide
  have hquotes : ¬ QuotesUndefined .undefined := by
    rw [quotesUndefined_iff]
    exact quotesIn_nil
  have hends : ¬ EndsInUndefined .undefined := nofun
  rw [showsUndefined_of_not_mem hbar, ShowsUndefined]
  simp [htrim, hquotes, hends]

/-- A quoted text: its quotes separate it from whatever is around it. -/
theorem tellsText_quoted (value : Text) (isFresh : Bool) :
    TellsText (.literal (.text value) isFresh) := by
  have hquote : isMark "\"" = true := by decide
  refine .of_quotesIn nofun nofun fun before after => ?_
  have hwords : QuotesIn (literal (.text value) isFresh).words (literal (.text value) isFresh).parts
      ↔ Text.ShowsUndefined false false (Literal.toText (.text value)) := by
    simp [words, parts, QuotesIn]
  rw [hwords, toText, textOf, Literal.toText, showsUndefined_append_mark hquote,
    showsUndefined_mark_append hquote, showsUndefined_append_mark hquote,
    showsUndefined_mark_append hquote]

theorem tellsText_array {element : SourceType} (isReadonly : Bool) (h : element.TellsText) :
    TellsText (.array isReadonly element) := by
  have hbrackets : isMark "[]" = true := by decide
  have hreadonly : isMark "readonly " = true := by decide
  refine .of_quotesIn nofun nofun fun before after => ?_
  have htext : (array isReadonly element).toText
      = Text.ofString (if isReadonly then "readonly " else "")
        ++ enclose 4 element.tightness element.toText ++ "[]" := by
    rw [toText, textOf]
    rfl
  have hfront : Text.ShowsUndefined before false
      (Text.ofString (if isReadonly then "readonly " else "")
        ++ enclose 4 element.tightness element.toText) ↔ element.QuotesUndefined := by
    cases isReadonly with
    | false => exact showsUndefined_enclose h 4
    | true => exact (showsUndefined_mark_append hreadonly).trans (showsUndefined_enclose h 4)
  rw [htext, showsUndefined_append_mark hbrackets, hfront]
  simp [words, parts, QuotesIn]

theorem isReferenceName_iff {name : Text} :
    isReferenceName name = true
      ↔ bar ∉ name ∧ name.trim ≠ "undefined" ∧ name ≠ "unknown" ∧ name ≠ "any" := by
  simp [isReferenceName, and_assoc]

/-- **A name with type arguments**, for any type that is written so. -/
theorem tellsText_reference {name : Text} {arguments : List SourceType}
    (hname : isReferenceName name = true) (hends : ¬ type.EndsInUndefined)
    (hself : type ≠ .undefined) (htext : type.toText = name ++ bracketed (textsOf false 0 arguments))
    (hwords : type.words = []) (hparts : type.parts = arguments)
    (h : ∀ part ∈ arguments, part.TellsText) : type.TellsText := by
  obtain ⟨hbar, htrim, -, -⟩ := isReferenceName_iff.mp hname
  cases arguments with
  | nil =>
    have hplain : type.toText = name := htext.trans (List.append_nil name)
    exact .of_word (hplain ▸ hbar) (hplain ▸ htrim) hends hwords hparts
  | cons first rest =>
    have hopen : isMark "<" = true := by decide
    have hclose : isMark ">" = true := by decide
    refine .of_quotesIn hends hself fun before after => ?_
    have hbracketed : type.toText = name ++ ("<" : Text)
        ++ Text.join ", " ((first :: rest).map toText) ++ ">" := by
      rw [htext, textsOf_zero, List.append_assoc, List.append_assoc]
      rfl
    have harguments : (∃ t ∈ (first :: rest).map toText, Text.ShowsUndefined false false t)
        ↔ ∃ t ∈ first :: rest, t.QuotesUndefined := by
      simp only [List.mem_map, exists_exists_and_eq_and]
      exact exists_congr fun t => and_congr_right fun ht => (h t ht).inside false
    rw [hbracketed, showsUndefined_append_mark hclose, showsUndefined_mark hopen,
      showsUndefined_of_not_mem hbar, showsUndefined_join_comma, harguments, hwords, hparts, QuotesIn]
    simp

/-- A function with one way to be called ends in its result. -/
theorem tellsText_function (hgives : c.givesType = true) (h : ∀ part ∈ c.parts, part.TellsText) :
    TellsText (.callable [c]) := by
  intro before after
  have harrow : isMark " => " = true := by decide
  have hquotes : QuotesUndefined (.callable [c]) ↔ QuotesIn c.words c.parts := by
    rw [quotesUndefined_iff, words, parts, quotesIn_flatMap]
    simp
  have htext : toText (.callable [c]) = [] ++ callText false " => " c := by
    rw [toText, textOf, List.nil_append]
  rw [htext, showsUndefined_callText harrow hgives h, ShowsUndefined, hquotes,
    endsInUndefined_callable]
  simp

/-- Members between braces, each closed by a semicolon. -/
theorem showsUndefined_braces (texts : List Text) :
    Text.ShowsUndefined before after
        ("\x7b " ++ Text.join " " (texts.map fun t : Text => t ++ ";") ++ " \x7d")
      ↔ ∃ t ∈ texts, Text.ShowsUndefined false false t := by
  have hopen : isMark "\x7b " = true := by decide
  have hclose : isMark " \x7d" = true := by decide
  rw [showsUndefined_append_mark hclose, showsUndefined_mark_append hopen,
    showsUndefined_join_closed]

/-- A function with several ways to be called. -/
theorem tellsText_overloads {calls : List CallType} (hseveral : ∀ c, calls ≠ [c])
    (hgives : ∀ c ∈ calls, c.givesType = true)
    (h : ∀ part ∈ calls.flatMap CallType.parts, part.TellsText) : TellsText (.callable calls) := by
  have hcolon : isMark ": " = true := by decide
  have hends : ¬ EndsInUndefined (.callable calls) := fun
    | .result _ => hseveral _ rfl
  refine .of_quotesIn hends nofun fun before after => ?_
  rw [overloads_toText hseveral, showsUndefined_braces, words, parts, quotesIn_flatMap]
  simp only [List.mem_map, exists_exists_and_eq_and]
  refine exists_congr fun c => and_congr_right fun hc => ?_
  have hparts : ∀ part ∈ c.parts, part.TellsText :=
    fun part hpart => h part (List.mem_flatMap.mpr ⟨c, hc, hpart⟩)
  rw [← List.nil_append (callText _ _ _), showsUndefined_callText hcolon (hgives c hc) hparts]
  simp

theorem tellsText_record {members : List MemberType}
    (hgives : ∀ m ∈ members, m.givesTypes = true)
    (h : ∀ part ∈ members.flatMap MemberType.parts, part.TellsText) :
    TellsText (.record members) := by
  cases members with
  | nil => exact .of_word (by decide) (by decide) nofun rfl rfl
  | cons first rest =>
    refine .of_quotesIn nofun nofun fun before after => ?_
    have htext : toText (.record (first :: rest))
        = ("\x7b " : Text)
          ++ Text.join " " (((first :: rest).map MemberType.toText).map fun t : Text => t ++ ";")
          ++ " \x7d" := by
      rw [← memberTexts_eq_map]
      rfl
    rw [htext, showsUndefined_braces, words, parts, quotesIn_flatMap]
    simp only [List.mem_map, exists_exists_and_eq_and]
    refine exists_congr fun m => and_congr_right fun hm => ?_
    exact showsUndefined_memberText (hgives m hm)
      fun part hpart => h part (List.mem_flatMap.mpr ⟨m, hm, hpart⟩)

/-- The first member of a union has a bar behind it. -/
theorem showsUndefined_first {first : SourceType} (hrest : types ≠ []) (h : first.TellsText) :
    Text.ShowsUndefined before after (Text.join " | " (textsOf false 3 (first :: types)))
      ↔ (first.QuotesUndefined ∨ (before = true ∧ first = .undefined))
        ∨ Text.ShowsUndefined true after (Text.join " | " (textsOf false 3 types)) := by
  obtain ⟨second, rest, rfl⟩ := List.exists_cons_of_ne_nil hrest
  rw [textsOf, textsOf, Text.join_cons_cons, showsUndefined_bar, ← textsOf]
  have hfirst : Text.ShowsUndefined before true (enclose 3 first.tightness first.toText)
      ↔ first.QuotesUndefined ∨ (before = true ∧ first = .undefined) := by
    rw [showsUndefined_member h, eq_self true, true_and]
  exact or_congr_left hfirst

/-- **The members of a union behind a bar**: only the last one can be `undefined`. -/
theorem showsUndefined_members (hsome : types ≠ []) (hlast : isUndefinedLast types = true)
    (h : ∀ t ∈ types, t.TellsText) :
    Text.ShowsUndefined true after (Text.join " | " (textsOf false 3 types))
      ↔ (∃ t ∈ types, t.QuotesUndefined) ∨ (after = true ∧ .undefined ∈ types) := by
  induction types with
  | nil => exact absurd rfl hsome
  | cons first rest ih =>
    obtain ⟨hfirst, hrest⟩ := List.forall_mem_cons.mp h
    by_cases hnil : rest = []
    · subst hnil
      have hjoin : Text.join " | " (textsOf false 3 [first])
          = enclose 3 first.tightness first.toText := List.append_nil _
      rw [hjoin, showsUndefined_member hfirst]
      simp [eq_comm]
    · obtain ⟨hother, hlast⟩ := (isUndefinedLast_cons.mp hlast).resolve_left hnil
      have hne : first ≠ .undefined := fun h => by simp [h, isUndefined] at hother
      rw [showsUndefined_first hnil hfirst, ih hnil hlast hrest]
      simp [hne, Ne.symm hne, or_assoc]

/-- **A union** shows its last member at its end, and what its members quote. -/
theorem tellsText_union (members : List SourceType) {shown : List SourceType}
    (hlength : 2 ≤ shown.length) (hlast : isUndefinedLast shown = true)
    (h : ∀ t ∈ shown, t.TellsText) : TellsText (.union members shown) := by
  intro before after
  obtain ⟨first, rest, rfl⟩ := List.exists_cons_of_length_pos (Nat.zero_lt_of_lt hlength)
  have hnil : rest ≠ [] := by
    rintro rfl
    exact Nat.not_succ_le_self 1 hlength
  obtain ⟨hother, hlast⟩ := (isUndefinedLast_cons.mp hlast).resolve_left hnil
  have hne : first ≠ .undefined := fun h => by simp [h, isUndefined] at hother
  obtain ⟨hfirst, hrest⟩ := List.forall_mem_cons.mp h
  have htext : toText (.union members (first :: rest))
      = Text.join " | " (textsOf false 3 (first :: rest)) := rfl
  have hquotes : QuotesUndefined (.union members (first :: rest))
      ↔ ∃ t ∈ first :: rest, t.QuotesUndefined := by
    rw [quotesUndefined_iff]
    simp [words, parts, QuotesIn]
  rw [htext, showsUndefined_first hnil hfirst, showsUndefined_members hnil hlast hrest,
    ShowsUndefined, hquotes, endsInUndefined_union]
  simp [hne, Ne.symm hne, or_assoc]

/-- **The text of a basic type shows `undefined` where the type tells so.** -/
theorem tellsText_of_isBasic (h : type.IsBasic) : type.TellsText := by
  induction h with
  | @intro type shape _ ih =>
    cases type with
    | any | unknown | never | void | null | string | number | integer | boolean | symbol | object =>
      exact .of_word (by decide) (by decide) nofun rfl rfl
    | undefined => exact tellsText_undefined
    | literal value isFresh =>
      cases value with
      | text value => exact tellsText_quoted value isFresh
      | boolean value =>
        cases value <;> cases isFresh <;> exact .of_word (by decide) (by decide) nofun rfl rfl
      | number | integer => exact absurd shape Bool.noConfusion
    | array isReadonly element =>
      exact tellsText_array isReadonly (ih element (List.mem_singleton_self element))
    | callable calls =>
      have hgives : ∀ c ∈ calls, c.givesType = true := List.all_eq_true.mp shape
      by_cases hsingle : ∃ c, calls = [c]
      · obtain ⟨c, rfl⟩ := hsingle
        refine tellsText_function (hgives c (List.mem_singleton_self c)) fun part hpart => ?_
        exact ih part (List.mem_flatMap.mpr ⟨c, List.mem_singleton_self c, hpart⟩)
      · exact tellsText_overloads (fun c hc => hsingle ⟨c, hc⟩) hgives ih
    | record members => exact tellsText_record (List.all_eq_true.mp shape) ih
    | union members shown =>
      obtain ⟨hlength, hlast⟩ := Bool.and_eq_true_iff.mp shape
      exact tellsText_union members (of_decide_eq_true hlength) hlast ih
    | named home name arguments =>
      exact tellsText_reference shape nofun nofun (named_toText home name arguments) rfl rfl ih
    | «alias» home name arguments meaning =>
      exact tellsText_reference shape nofun nofun rfl rfl rfl ih
    | unresolved name arguments => exact tellsText_reference shape nofun nofun rfl rfl rfl ih
    | parameter home name bound => exact tellsText_reference shape nofun nofun rfl rfl rfl ih
    | enumeration home name members => exact tellsText_reference shape nofun nofun rfl rfl rfl ih
    | _ => exact absurd shape Bool.noConfusion

end SourceType

end Turnstile.Source
