import Turnstile.Source.Described

/-! # Faults of a program

* **`Program.sourceFaults`** lists what is wrong with one source: what a walk over it reports, a
  block that is not closed, names that are declared and never read.
* **`Directive`** comments hide the faults of the line behind them; one that expects a fault is a
  fault when there is none.
* **`Program.faults`** lists the faults of all sources as lines. -/

namespace Turnstile.Source

/-! ## Lines and directives -/

/-- The lines of a text. -/
def linesOf : Text → List Text
  | [] => [[]]
  | [u] => if isLineEnd u then [[], []] else [[u]]
  | u :: v :: rest =>
    if u = 0xD && v = 0xA then
      match linesOf (v :: rest) with
      | _ :: lines => [] :: lines
      | [] => [[]]
    else if isLineEnd u then [] :: linesOf (v :: rest)
    else
      match linesOf (v :: rest) with
      | line :: lines => (u :: line) :: lines
      | [] => [[u]]

/-- A comment that hides faults: where its last line starts, and whether it expects a fault. -/
structure Directive where
  site : Site
  expects : Bool

/-- The directive that a comment is, if it is one. -/
def Directive.ofComment? (comment : Text × Site) : Option Directive :=
  let (spelling, site) := comment
  let isBlock := spelling.startsWith "/*"
  let last := ((linesOf spelling).getLast?).getD []
  let marks : List UInt16 := [0x2F, 0x2A]
  let body : Text :=
    if isBlock then ((last.dropWhile Text.isBlank).dropWhile marks.contains).dropWhile Text.isBlank
    else
      let bare := spelling.drop 2
      let bare := if bare.head? == some 0x2F then bare.drop 1 else bare
      bare.dropWhile Text.isBlank
  let last : Site := ⟨site.offset + (spelling.length - last.length), site.line + linesEnded spelling⟩
  if body.startsWith "@ts-expect-error" then some ⟨last, true⟩
  else if body.startsWith "@ts-ignore" then some ⟨last, false⟩
  else none

/-- Whether a line holds nothing but a comment, or nothing. -/
def isIdleLine (line : Text) : Bool :=
  let bare := line.trim
  bare.isEmpty || bare.startsWith "//"

/-- The directive for faults on the line behind the given ones, which come latest first with their
numbers: the nearest one with only idle lines between. -/
def directiveFor? (directives : List Directive) : List (Nat × Text) → Option Directive
  | [] => none
  | (number, line) :: before =>
    match directives.find? (·.site.line = number) with
    | some directive => some directive
    | none => if isIdleLine line then directiveFor? directives before else none

/-- The lines before a line, latest first, with their numbers. -/
def linesBefore (lines : List Text) (number : Nat) : List (Nat × Text) :=
  ((List.range' 1 (number - 1)).zip lines).reverse

/-! ## Names never read -/

namespace OwnName

/-- Whether a name is a parameter, or a part of one. -/
def isParameter (own : OwnName) : Bool :=
  match own.kind with
  | .parameter => true
  | .part _ _ isParameter => isParameter
  | _ => false

/-- The report of a name that is never read, at a site. -/
def report (own : OwnName) (site : Site) : Report :=
  match own.kind with
  | .type => ⟨site, "'" ++ own.name ++ "' is declared but never used."⟩
  | .property => ⟨site, "Property '" ++ own.name ++ "' is declared but its value is never read."⟩
  | _ => ⟨site, "'" ++ own.name ++ "' is declared but its value is never read."⟩

/-- Whether two names are declared together. -/
def isGroupedWith (a b : OwnName) : Bool :=
  match a.kind, b.kind with
  | .imported x, .imported y => x = y
  | .variable x _, .variable y _ => x = y
  | .part x _ _, .part y _ _ => x = y
  | _, _ => false

/-- The report of a name that is never read, among all names and those never read. Names declared
together are reported together when none of them is read. -/
def unusedReport (all unused : List OwnName) (own : OwnName) : Report :=
  let left := (unused.filter own.isGroupedWith).length
  match own.kind with
  | .imported site =>
    let whole := (all.filter own.isGroupedWith).length
    if left < whole then own.report own.site
    else if whole = 1 then own.report site
    else ⟨site, "All imports in import declaration are unused."⟩
  | .variable site whole =>
    if left = whole && 1 < whole then ⟨site, "All variables are unused."⟩ else own.report own.site
  | .part site whole _ =>
    if left < whole then own.report own.site
    else if whole = 1 then own.report site
    else ⟨site, "All destructured elements are unused."⟩
  | _ => own.report own.site

end OwnName

/-! ## Faults of one source -/

/-- Insert a report behind those that stand before it or at the same place. -/
def insertReport (report : Report) : List Report → List Report
  | [] => [report]
  | first :: rest =>
    if report.site.offset < first.site.offset then report :: first :: rest
    else first :: insertReport report rest

/-- Reports by their place. -/
def sortReports (reports : List Report) : List Report :=
  reports.foldl (fun sorted report => insertReport report sorted) []

/-- The reports of names that are never read, as far as they are asked for. -/
def unusedReports (options : CheckOptions) (found : Findings) : List Report :=
  let own := found.own.reverse
  let unused := own.filter fun name =>
    !found.reads.contains name.reading
      && if name.isParameter then options.noUnusedParameters else options.noUnusedLocals
  unused.map (OwnName.unusedReport own unused)

/-- **What is wrong with a source**, by place, from what a walk over it finds. -/
def Program.sourceFaults (p : Program) (path : Text) (source : SourceTree) (found : Findings) :
    List Report :=
  let unclosed := source.unclosed.toList.map fun site => Report.mk site "'\x7d' expected."
  if source.isUnchecked then unclosed
  else
    let reports := found.reports.reverse ++ unusedReports p.options found
    let lines := linesOf ((p.tree.text? path).getD [])
    let directives := source.comments.filterMap Directive.ofComment?
    let hider (report : Report) : Option Directive :=
      if directives.isEmpty then none
      else directiveFor? directives (linesBefore lines report.site.line)
    let kept := reports.filter fun report => (hider report).isNone
    let met := (reports.filterMap hider).map (·.site.line)
    let unmet := (directives.filter fun d => d.expects && !met.contains d.site.line).map fun d =>
      Report.mk d.site "Unused '@ts-expect-error' directive."
    (sortReports (unclosed ++ kept ++ unmet)).eraseDups

/-! ## Faults of a program -/

/-- Insert a source by its path. -/
def insertSource (item : Text × SourceTree) : List (Text × SourceTree) → List (Text × SourceTree)
  | [] => [item]
  | first :: rest =>
    if comesBefore item.1 first.1 then item :: first :: rest else first :: insertSource item rest

/-- The fault of a root that is no file. -/
def rootNotFound (path : Text) : Text :=
  "File '" ++ path ++ "' not found.\n  The file is in the program because:\n"
    ++ "    Root file specified for compilation"

/-- **The faults of a program** as lines, with paths as seen from a directory. -/
def Program.faults (p : Program) (directory : Text) : List Text :=
  if (p.source? p.root).isNone then [rootNotFound p.root]
  else
    let walked := p.walked
    (p.sources.foldr insertSource []).flatMap fun (path, source) =>
      match walked.findings.lookup path with
      | none => []
      | some found =>
        (p.sourceFaults path source found).map fun report =>
          Path.relative directory path ++ ":" ++ Text.ofNat report.site.line ++ ": " ++ report.message

end Turnstile.Source
