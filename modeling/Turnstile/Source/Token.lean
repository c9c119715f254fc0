import Turnstile.Text

/-! # Tokens of a source

A source text is cut into **lexemes** from the left; those that mean something are its **tokens**.

* **`Lexeme.next?`** takes one lexeme off a text and hands back the rest. A slash opens a pattern
  only where a value can start.
* **`pieces`** is the whole text cut up, each piece with its **site**.
* **`tokens`** keeps the words, literals and marks, **`comments`** the comments. -/

namespace Turnstile.Source

/-- A place in a source: how many units stand before it, and its line, counted from one. -/
structure Site where
  offset : Nat
  line : Nat
  deriving DecidableEq, Repr, Inhabited

/-- The smallest parts of a source. -/
inductive Lexeme where
  | blank
  | newline
  /-- A comment, with its slashes. -/
  | comment (spelling : Text)
  /-- A name or a keyword; the name of a private member starts with a number sign. -/
  | word (name : Text)
  /-- A quoted text, by its value. -/
  | text (value : Text)
  | number (spelling : Text)
  /-- An integer literal, without the letter at its end. -/
  | integer (spelling : Text)
  /-- A template, as it is written between its back quotes. -/
  | template (spelling : Text)
  /-- A pattern for texts, between slashes. -/
  | pattern
  /-- An operator or a piece of punctuation. -/
  | mark (spelling : Text)
  deriving DecidableEq, Repr, Inhabited

/-! ## Units -/

/-- A unit that ends a line. -/
def isLineEnd (u : UInt16) : Bool := u = 0xA || u = 0xD || u = 0x2028 || u = 0x2029

/-- A unit that a name starts with. -/
def isNameStart (u : UInt16) : Bool :=
  Text.isLetter u || u = 0x24 || u = 0x5F || (0x80 ≤ u && !Text.isBlank u)

/-- A unit that a name goes on with. -/
def isNamePart (u : UInt16) : Bool := isNameStart u || Text.isDigit u

/-- How many lines end inside a text; a carriage return and the line feed behind it end one. -/
def linesEnded : Text → Nat
  | [] => 0
  | [u] => if isLineEnd u then 1 else 0
  | u :: v :: rest =>
    if u = 0xD && v = 0xA then linesEnded (v :: rest)
    else (if isLineEnd u then 1 else 0) + linesEnded (v :: rest)

/-- The site behind a text that starts at the given site. -/
def Site.after (site : Site) (passed : Text) : Site :=
  ⟨site.offset + passed.length, site.line + linesEnded passed⟩

/-- The site where a source starts. -/
def Site.start : Site := ⟨0, 1⟩

namespace Lexeme

/-! ## Literals -/

/-- The unit that a letter behind a backslash stands for. -/
def escaped (u : UInt16) : UInt16 :=
  if u = 0x6E then 0xA else if u = 0x74 then 0x9 else if u = 0x72 then 0xD
  else if u = 0x62 then 0x8 else if u = 0x66 then 0xC else if u = 0x76 then 0xB
  else if u = 0x30 then 0 else u

/-- A quoted text behind its opening quote: its value and the rest. It ends at the quote, or before
the end of the line. -/
def quoted (quote : UInt16) : Text → Text × Text
  | [] => ([], [])
  | [u] => if u = quote then ([], []) else if isLineEnd u then ([], [u]) else ([u], [])
  | u :: v :: rest =>
    if u = quote then ([], v :: rest)
    else if isLineEnd u then ([], u :: v :: rest)
    else if u = 0x5C then
      if v = 0x78 || v = 0x75 then codePoint v rest
      else if isLineEnd v then quoted quote rest
      else let (value, rest) := quoted quote rest; (escaped v :: value, rest)
    else let (value, rest) := quoted quote (v :: rest); (u :: value, rest)
where
  /-- An escape by hexadecimal digits: two behind `x`, four behind `u`. -/
  codePoint (kind : UInt16) : Text → Text × Text
    | a :: b :: rest =>
      match Text.nat? 16 [a, b] with
      | none => let (value, rest) := quoted quote (b :: rest); (a :: value, rest)
      | some high =>
        if kind = 0x78 then let (value, rest) := quoted quote rest; (high.toUInt16 :: value, rest)
        else
          match rest with
          | c :: d :: rest =>
            let (value, rest) := quoted quote rest
            ((high * 256 + (Text.nat? 16 [c, d]).getD 0).toUInt16 :: value, rest)
          | rest => ([high.toUInt16], rest)
    | rest => ([], rest)

/-- What encloses a place inside a template. -/
inductive Enclosure where
  /-- The fixed text of a template. -/
  | fixed
  /-- Code, with a brace to be closed. -/
  | code
  deriving DecidableEq

/-- A template behind its opening back quote, inside the given enclosures: its spelling and the
rest. -/
def templated : List Enclosure → Text → Text × Text
  | _, [] => ([], [])
  | [], rest => ([], rest)
  | .fixed :: outer, [u] => if u = 0x60 && outer.isEmpty then ([], []) else ([u], [])
  | .code :: _, [u] => ([u], [])
  | .fixed :: outer, u :: v :: rest =>
    if u = 0x60 then
      if outer.isEmpty then ([], v :: rest)
      else let (spelling, rest) := templated outer (v :: rest); (u :: spelling, rest)
    else if u = 0x5C then
      let (spelling, rest) := templated (.fixed :: outer) rest; (u :: v :: spelling, rest)
    else if u = 0x24 && v = 0x7B then
      let (spelling, rest) := templated (.code :: .fixed :: outer) rest; (u :: v :: spelling, rest)
    else let (spelling, rest) := templated (.fixed :: outer) (v :: rest); (u :: spelling, rest)
  | .code :: outer, u :: v :: rest =>
    let inside :=
      if u = 0x60 then .fixed :: .code :: outer
      else if u = 0x7B then .code :: .code :: outer
      else if u = 0x7D then outer
      else .code :: outer
    let (spelling, rest) := templated inside (v :: rest); (u :: spelling, rest)

/-- The spelling of a numeral that goes on behind the given unit, and the rest: digits, letters,
points and the sign of an exponent. -/
def numeral (previous : UInt16) : Text → Text × Text
  | [] => ([], [])
  | u :: rest =>
    let isExponent := previous = 0x65 || previous = 0x45
    if Text.isDigit u || Text.isLetter u || u = 0x5F || u = 0x2E
        || (isExponent && (u = 0x2B || u = 0x2D)) then
      let (spelling, rest) := numeral u rest
      (u :: spelling, rest)
    else ([], u :: rest)

/-- The lexeme of a numeral. -/
def ofNumeral (spelling : Text) : Lexeme :=
  let digits := spelling.filter (· ≠ 0x5F)
  if digits.getLast? == some 0x6E then .integer digits.dropLast else .number digits

/-! ## Marks and comments -/

/-- The marks of more than one unit, longer ones first. -/
def longMarks : List Text :=
  ["...", "===", "!==", "**=", "<<=", "&&=", "||=", "??=", "=>", "==", "!=", "<=", "&&", "||", "??",
   "?.", "++", "--", "+=", "-=", "*=", "/=", "%=", "&=", "|=", "^=", "**", "<<"].map Text.ofString

/-- The mark that a text starts with, and the rest. -/
def markOf (u : UInt16) (rest : Text) : Lexeme × Text :=
  match longMarks.find? fun spelling => spelling.isPrefixOf (u :: rest) with
  | some spelling => (.mark spelling, rest.drop (spelling.length - 1))
  | none => (.mark [u], rest)

/-- A comment between slash-star and star-slash, behind its opening: its spelling and the rest. -/
def blockComment : Text → Text × Text
  | [] => ([], [])
  | [u] => ([u], [])
  | u :: v :: rest =>
    if u = 0x2A && v = 0x2F then ([u, v], rest)
    else let (spelling, rest) := blockComment (v :: rest); (u :: spelling, rest)

/-- What is left behind a pattern whose opening slash was read, if it is closed on its line;
`inClass` says that a slash stands for itself. -/
def patternRest? (inClass : Bool) : Text → Option Text
  | [] => none
  | [u] => if u = 0x2F && !inClass then some [] else none
  | u :: v :: rest =>
    if isLineEnd u then none
    else if u = 0x5C then if isLineEnd v then none else patternRest? inClass rest
    else if u = 0x2F && !inClass then some ((v :: rest).dropWhile isNamePart)
    else if u = 0x5B then patternRest? true (v :: rest)
    else if u = 0x5D then patternRest? false (v :: rest)
    else patternRest? inClass (v :: rest)

/-- Whether a value can start behind a lexeme, so that a slash there opens a pattern. -/
def isBeforeValue : Lexeme → Bool
  | .mark spelling => !([(")" : Text), "]", "\x7d", "++", "--"].contains spelling)
  | .word name =>
    [("return" : Text), "typeof", "case", "in", "of", "delete", "void", "throw", "do", "else", "await",
      "yield", "instanceof", "new"].contains name
  | .text _ => false
  | .number _ => false
  | .integer _ => false
  | .template _ => false
  | .pattern => false
  | .blank => true
  | .newline => true
  | .comment _ => true

/-- **One lexeme off the front of a text**, and the rest. `opensValue` says that a value can start
there. -/
def next? (opensValue : Bool) : Text → Option (Lexeme × Text)
  | [] => none
  | u :: rest =>
    if isLineEnd u then
      match rest with
      | v :: rest' => some (.newline, if u = 0xD && v = 0xA then rest' else rest)
      | [] => some (.newline, rest)
    else if Text.isBlank u then some (.blank, rest)
    else if isNameStart u || (u = 0x23 && (rest.head?.map isNameStart).getD false) then
      some (.word (u :: rest.takeWhile isNamePart), rest.dropWhile isNamePart)
    else if Text.isDigit u || (u = 0x2E && (rest.head?.map Text.isDigit).getD false) then
      let (spelling, rest) := numeral u rest
      some (ofNumeral (u :: spelling), rest)
    else if u = 0x22 || u = 0x27 then
      let (value, rest) := quoted u rest
      some (.text value, rest)
    else if u = 0x60 then
      let (spelling, rest) := templated [.fixed] rest
      some (.template spelling, rest)
    else if u = 0x2F && rest.head? == some 0x2F then
      some (.comment (u :: rest.takeWhile (!isLineEnd ·)), rest.dropWhile (!isLineEnd ·))
    else if u = 0x2F && rest.head? == some 0x2A then
      let (spelling, rest) := blockComment (rest.drop 1)
      some (.comment (u :: 0x2A :: spelling), rest)
    else
      match if u = 0x2F && opensValue then patternRest? false rest else none with
      | some rest => some (.pattern, rest)
      | none => some (markOf u rest)

end Lexeme

/-! ## Templates -/

namespace Template

/-- The fixed texts of a template as they are written, and the codes in its holes with their offsets:
what stands between a dollar sign with an opening brace and the brace that closes it. `start` is
where the part that is being read starts, and `part` what was read of it, backwards. -/
def partsFrom (offset : Nat) (enclosures : List Lexeme.Enclosure) (start : Nat) (part : Text) :
    Text → List Text × List (Nat × Text)
  | [] => ([part.reverse], [])
  | [u] =>
    if enclosures.length = 2 && u = 0x7D then ([[]], [(start, part.reverse)])
    else ([(u :: part).reverse], [])
  | u :: v :: rest =>
    match enclosures with
    | [] => ([part.reverse], [])
    | .fixed :: outer =>
      if u = 0x60 && !outer.isEmpty then partsFrom (offset + 1) outer start (u :: part) (v :: rest)
      else if u = 0x5C then partsFrom (offset + 2) enclosures start (v :: u :: part) rest
      else if u = 0x24 && v = 0x7B then
        if outer.isEmpty then
          let (texts, codes) := partsFrom (offset + 2) [.code, .fixed] (offset + 2) [] rest
          (part.reverse :: texts, codes)
        else partsFrom (offset + 2) (.code :: enclosures) start (v :: u :: part) rest
      else partsFrom (offset + 1) enclosures start (u :: part) (v :: rest)
    | .code :: outer =>
      if u = 0x7D && outer.length = 1 then
        let (texts, codes) := partsFrom (offset + 1) outer (offset + 1) [] (v :: rest)
        (texts, (start, part.reverse) :: codes)
      else
        let inside :=
          if u = 0x60 then .fixed :: enclosures
          else if u = 0x7B then .code :: enclosures
          else if u = 0x7D then outer
          else enclosures
        partsFrom (offset + 1) inside start (u :: part) (v :: rest)

/-- The codes in the holes of a template that stands at a site, each with its own site. -/
def holes (site : Site) (spelling : Text) : List (Site × Text) :=
  (partsFrom 0 [.fixed] 0 [] spelling).2.map fun (offset, code) =>
    (site.after (Text.unit '`' :: spelling.take offset), code)

/-- The fixed texts of a template, with what their escapes stand for. -/
def texts (spelling : Text) : List Text :=
  (partsFrom 0 [.fixed] 0 [] spelling).1.map meant
where
  /-- A text without its escapes. -/
  meant : Text → Text
    | [] => []
    | [u] => [u]
    | u :: v :: rest =>
      if u = 0x5C then if isLineEnd v then meant rest else Lexeme.escaped v :: meant rest
      else u :: meant (v :: rest)

end Template

/-! ## Pieces and tokens -/

/-- A lexeme at its site. -/
structure Piece where
  lexeme : Lexeme
  site : Site

/-- How many units a lexeme takes, where it shows that and ends no line. -/
def Lexeme.length? : Lexeme → Option Nat
  | .blank => some 1
  | .word name => some name.length
  | .mark spelling => some spelling.length
  | _ => none

/-- The site behind a lexeme that was taken off the front of a text. -/
def Site.behind (site : Site) (lexeme : Lexeme) (text rest : Text) : Site :=
  match lexeme.length? with
  | some length => ⟨site.offset + length, site.line⟩
  | none => site.after (text.take (text.length - rest.length))

/-- The first lexemes of a text, at most as many as given, with their sites. `opensValue` says that
a value can start at the first one. -/
def piecesFrom (opensValue : Bool) (site : Site) : (limit : Nat) → Text → List Piece
  | 0, _ => []
  | limit + 1, text =>
    match Lexeme.next? opensValue text with
    | none => []
    | some (lexeme, rest) =>
      let opensValue := match lexeme with
        | .blank => opensValue
        | .newline => opensValue
        | .comment _ => opensValue
        | lexeme => lexeme.isBeforeValue
      ⟨lexeme, site⟩ :: piecesFrom opensValue (site.behind lexeme text rest) limit rest

/-- **A text cut into lexemes** from the given site on. -/
def pieces (site : Site) (text : Text) : List Piece := piecesFrom true site text.length text

/-- A lexeme that means something, at its site. `opensLine` says that it is the first of its line.
-/
structure Token where
  lexeme : Lexeme
  site : Site
  opensLine : Bool
  deriving Inhabited

/-- The tokens among pieces; `fresh` says that a line was begun and nothing stands on it so far. -/
def tokensOf (fresh : Bool) : List Piece → List Token
  | [] => []
  | piece :: rest =>
    match piece.lexeme with
    | .blank => tokensOf fresh rest
    | .newline => tokensOf true rest
    | .comment spelling => tokensOf (fresh || linesEnded spelling ≠ 0) rest
    | lexeme => ⟨lexeme, piece.site, fresh⟩ :: tokensOf false rest

/-- A source without the line that names its interpreter, if it has one; the line end stays. -/
def withoutHeader (text : Text) : Text :=
  if text.startsWith "#!" then text.dropWhile (!isLineEnd ·) else text

/-- The pieces of a whole source. -/
def sourcePieces (text : Text) : List Piece :=
  let body := withoutHeader text
  pieces (Site.start.after (text.take (text.length - body.length))) body

/-- **The tokens of a source.** -/
def tokens (text : Text) : List Token := tokensOf true (sourcePieces text)

/-- The comments among pieces, also in the holes of templates that are nested as deep as the limit.
-/
def commentsOf : (limit : Nat) → List Piece → List (Text × Site)
  | 0, _ => []
  | limit + 1, all =>
    all.flatMap fun piece =>
      match piece.lexeme with
      | .comment spelling => [(spelling, piece.site)]
      | .template spelling =>
        (Template.holes piece.site spelling).flatMap fun (start, code) =>
          commentsOf limit (pieces start code)
      | _ => []

/-- **The comments of a source**, with their sites. -/
def comments (text : Text) : List (Text × Site) := commentsOf text.length (sourcePieces text)

end Turnstile.Source
