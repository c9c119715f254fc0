import Turnstile.Json.Lenient
import Turnstile.Settings.Choice
import Turnstile.Settings.Pattern
import Turnstile.Source.Program

/-! # Settings files

A settings file chooses the options by which sources are checked. It may build on other settings
files.

* **`Settings.load`** reads one, with the files that it builds on: what is set later wins.
* **`SettingsFault`** says why that fails, **`SettingFault`** what is wrong with an entry.
* **`Settings.checkOptions`** reads off how sources are looked at. -/

namespace Turnstile

namespace Settings

/-- The value of an option. -/
inductive SettingValue where
  | flag (value : Bool)
  | text (value : Text)
  | code (value : Nat)
  | texts (values : List Text)
  | other

/-- What is wrong with an entry of a settings file. -/
inductive SettingFault where
  | wrongType (option expected : Text)
  | unknownOption (option : Text)
  | wrongChoice (option : Text) (choices : List Text)
  | blankBase
  | baseNotFound (name : Text)
  | unreadableBase (path : Text)
  | circular (paths : List Text)
  | rootIsNoObject
  | noFiles (path : Text)
  | noInputs (path : Text) (included excluded : List Text)

/-- Texts as a JSON list. -/
def listText (texts : List Text) : Text := (Json.array (texts.map .text)).render

/-- The wording of a fault. -/
def SettingFault.message : SettingFault → Text
  | .wrongType option expected =>
    "Compiler option '" ++ option ++ "' requires a value of type " ++ expected ++ "."
  | .unknownOption option => "Unknown compiler option '" ++ option ++ "'."
  | .wrongChoice option choices =>
    "Argument for '--" ++ option ++ "' option must be: "
      ++ Text.join ", " (choices.map fun word => "'" ++ word ++ "'") ++ "."
  | .blankBase => "Compiler option 'extends' cannot be given an empty string."
  | .baseNotFound name => "File '" ++ name ++ "' not found."
  | .unreadableBase path => "Cannot read file '" ++ path ++ "'."
  | .circular paths =>
    "Circularity detected while resolving configuration: " ++ Text.join " -> " paths
  | .rootIsNoObject => "The root value of a 'tsconfig.json' file must be an object."
  | .noFiles path => "The 'files' list in config file '" ++ path ++ "' is empty."
  | .noInputs path included excluded =>
    "No inputs were found in config file '" ++ path ++ "'. Specified 'include' paths were '"
      ++ listText included ++ "' and 'exclude' paths were '" ++ listText excluded ++ "'."

/-- Options with their values; an option that was unset has none. -/
abbrev Options := List (Text × Option SettingValue)

/-- Options with others set behind them. -/
def Options.and (options later : Options) : Options := later ++ options

/-- The value of an option. -/
def Options.value? (options : Options) (name : Text) : Option SettingValue :=
  (options.lookup name).join

/-! ## Values -/

/-- Whether a JSON value is of the kind that an option takes. `null` is of every kind. -/
def SettingType.admits : SettingType → Json → Bool
  | _, .null => true
  | .flag, .boolean _ => true
  | .text, .text _ => true
  | .path, .text _ => true
  | .choice _, .text _ => true
  | .library, .text _ => true
  | .number, .number _ => true
  | .record, .object _ => true
  | .record, .array _ => true
  | .list _, .array _ => true
  | .listOrItem _, .array _ => true
  | .listOrItem element, value => element.admits value
  | _, _ => false

/-- The value that a JSON value gives an option, and what is wrong with it; paths are made absolute
against a directory. -/
def readValue (directory option : Text) : SettingType → Json → Option SettingValue × List SettingFault
  | _, .null => (none, [])
  | .flag, .boolean value => (some (.flag value), [])
  | .text, .text value => (some (.text value), [])
  | .path, .text value => (some (.text (Path.resolve directory value)), [])
  | .number, .number _ => (some .other, [])
  | .record, .object _ => (some .other, [])
  | .record, .array _ => (some .other, [])
  | .choice choices, .text value =>
    match choices.find? fun choice => choice.word == Text.toLower value with
    | some choice => (some (.code choice.code), [])
    | none => (none, [.wrongChoice option ((choices.filter (·.isTold)).map (·.word))])
  | .library, .text value =>
    match libraryFile? value with
    | some file => (some (.text file), [])
    | none => (none, [.wrongChoice option libraryVersions])
  | .list element, .array items => readItems element items
  | .listOrItem element, .array items => readItems element items
  | .listOrItem element, value => readValue directory option element value
  | type, _ => (none, [.wrongType option type.word])
where
  /-- The values of a list, without those that are missing or wrong. -/
  readItems (element : SettingType) (items : List Json) : Option SettingValue × List SettingFault :=
    let read := items.map fun item => readItem element item
    let texts := read.filterMap fun (value, _) =>
      match value with
      | some (.text value) => if value.isEmpty then none else some value
      | _ => none
    (some (.texts texts), read.flatMap (·.2))
  /-- The value of an item of a list. -/
  readItem : SettingType → Json → Option SettingValue × List SettingFault
    | _, .null => (none, [])
    | .library, .text value =>
      match libraryFile? value with
      | some file => (some (.text file), [])
      | none => (none, [.wrongChoice option libraryVersions])
    | .text, .text value => (some (.text value), [])
    | .record, .object _ => (some .other, [])
    | .record, .array _ => (some .other, [])
    | type, _ => (none, [.wrongType option type.word])

/-! ## One file -/

/-- What a settings file sets by itself. -/
structure OwnSettings where
  options : Options
  /-- The paths of the files that it builds on. -/
  bases : List Text
  faults : List SettingFault
  /-- Its entries as they are written, the last one under each name. -/
  entries : List (Text × Json)

namespace OwnSettings

/-- Nothing set. -/
def empty : OwnSettings := ⟨[], [], [], []⟩

/-- Settings with more faults. -/
def faulty (s : OwnSettings) (faults : List SettingFault) : OwnSettings :=
  { s with faults := s.faults ++ faults }

/-- The settings with an option set. -/
def setOption (directory : Text) (s : OwnSettings) (member : Text × Json) : OwnSettings :=
  match optionTypes.lookup member.1 with
  | none => s.faulty [.unknownOption member.1]
  | some type =>
    let (value, faults) := readValue directory member.1 type member.2
    { s.faulty faults with options := (member.1, value) :: s.options }

/-- The path of a file to build on, by its name. -/
def basePath (tree : FileTree) (directory name : Text) : Except SettingFault Text :=
  if name.startsWith "./" || name.startsWith "../" || name.startsWith "/" then
    let path := Path.resolve directory name
    if tree.isFile path || path.endsWith ".json" then .ok path
    else if tree.isFile (path ++ ".json") then .ok (path ++ ".json")
    else .error (.baseNotFound name)
  else if name.isEmpty then .error .blankBase
  else .error (.baseNotFound name)

/-- The settings with a file to build on. -/
def addBase (tree : FileTree) (directory : Text) (s : OwnSettings) (name : Text) : OwnSettings :=
  match basePath tree directory name with
  | .ok path => { s with bases := s.bases ++ [path] }
  | .error fault => s.faulty [fault]

/-- The settings with the files to build on. -/
def setBases (tree : FileTree) (directory : Text) (s : OwnSettings) : Json → OwnSettings
  | .text name => addBase tree directory { s with bases := [] } name
  | .array items => items.foldl (fun s item =>
      match item with
      | .text name => addBase tree directory s name
      | _ => s.faulty [.wrongType "extends" "string"]) { s with bases := [] }
  | .null => { s with bases := [] }
  | _ => { s.faulty [.wrongType "extends" "string or Array"] with bases := [] }

/-- The settings with an entry. -/
def setEntry (tree : FileTree) (directory : Text) (s : OwnSettings) (member : Text × Json) :
    OwnSettings :=
  let s := { s with entries := member :: s.entries.filter (·.1 ≠ member.1) }
  if member.1 == "extends" then setBases tree directory s member.2
  else
    match entryTypes.lookup member.1 with
    | none => s
    | some type =>
      match type, member.2 with
      | .record, .object members =>
        if member.1 == "compilerOptions" then members.foldl (setOption directory) s else s
      | type, value => s.faulty (readValue directory member.1 type value).2

/-- **What a settings file sets by itself**, from what is written in it. -/
def ofJson (tree : FileTree) (directory : Text) : Option Json → OwnSettings
  | none => empty
  | some (.object members) => members.foldl (setEntry tree directory) empty
  | some (.array items) =>
    let start := empty.faulty [.rootIsNoObject]
    match items.findSome? fun item => match item with | .object members => some members | _ => none with
    | some members => members.foldl (setEntry tree directory) start
    | none => start
  | some _ => empty.faulty [.rootIsNoObject]

/-- An entry that is a list of texts; what is no text is left out. -/
def texts? (s : OwnSettings) (name : Text) : Option (List Text) :=
  match s.entries.lookup name with
  | some (.array items) =>
    some (items.filterMap fun item => match item with | .text t => some t | _ => none)
  | _ => none

/-- Whether there is an entry under a name. -/
def has (s : OwnSettings) (name : Text) : Bool := (s.entries.lookup name).isSome

end OwnSettings

/-! ## A file with those it builds on -/

/-- The names of the entries that say which files are meant. -/
def fileEntries : List Text := ["include", "exclude", "files"].map Text.ofString

/-- A path as seen from another directory. -/
def seenFrom (directory other path : Text) : Text :=
  if Path.isAbsolute path then path
  else
    let way := Path.relative directory other
    if way.isEmpty then path else way ++ Path.slash :: path

/-- The entries about files that settings take over from those they build on: the ones that they
have not themselves, the last base counting. -/
def inheritedEntries (directory : Text) (own : OwnSettings) (bases : List (Text × OwnSettings)) :
    List (Text × Json) :=
  fileEntries.filterMap fun name =>
    let isOwn := match own.entries.lookup name with
      | some .null => false
      | some (.boolean false) => false
      | some _ => true
      | none => false
    if isOwn then none
    else
      (bases.reverse.findSome? fun (path, base) =>
        (base.texts? name).map fun texts => texts.map (seenFrom directory (Path.parent path))).map
          fun texts => (name, .array (texts.map .text))

/-- **The settings of a file and of those it builds on**; `stack` are the files that build on it,
and a chain is followed for at most as many steps as given. Nothing is set where a file builds on
itself. -/
def resolve (tree : FileTree) : (steps : Nat) → (stack : List Text) → (path text : Text) →
    OwnSettings × Bool
  | 0, _, _, _ => (.empty, false)
  | steps + 1, stack, path, text =>
    if stack.contains path then (OwnSettings.empty.faulty [.circular (stack ++ [path])], false)
    else
      let directory := Path.parent path
      let own := OwnSettings.ofJson tree directory (Json.readLenient text)
      let bases := own.bases.map fun base =>
        match tree.text? base with
        | none => (base, OwnSettings.empty.faulty [.unreadableBase base], false)
        | some text =>
          let (s, isSet) := resolve tree steps (stack ++ [path]) base text
          (base, s, isSet)
      let set := bases.filterMap fun (base, s, isSet) => if isSet then some (base, s) else none
      let options := (set.map fun (_, s) => s.options).foldl Options.and []
      ({ options := options.and own.options
         bases := own.bases
         faults := own.faults ++ bases.flatMap fun (_, s, _) => s.faults
         entries := inheritedEntries directory own set ++ own.entries }, true)

/-- The text of an option that is a path, if it is set. -/
def pathOption (options : Options) (name : Text) : List Text :=
  match options.value? name with
  | some (.text path) => [path]
  | _ => []

/-- What is wrong with the files that settings mean: an empty list of files, or patterns that take
in no file. -/
def fileFaults (tree : FileTree) (path : Text) (s : OwnSettings) : List SettingFault :=
  let files := s.texts? "files"
  let hasReferences := s.has "references"
  let noReferences := match s.entries.lookup ("references" : Text) with
    | none => true
    | some (.array []) => true
    | some .null => true
    | _ => false
  let listFaults :=
    if files = some [] && noReferences && !s.has "extends" then [SettingFault.noFiles path] else []
  let included := match files, s.texts? "include" with
    | none, none => [Text.ofString "**/*"]
    | _, included => included.getD []
  let excluded := match s.entries.lookup ("exclude" : Text) with
    | none => pathOption s.options "outDir" ++ pathOption s.options "declarationDir"
    | some .null => pathOption s.options "outDir" ++ pathOption s.options "declarationDir"
    | some _ => (s.texts? "exclude").getD []
  let taken := files.getD [] ++ takenFiles tree (Path.parent path) included excluded
  let inputFaults :=
    if taken.isEmpty && !s.has "files" && !hasReferences then
      [SettingFault.noInputs path included excluded]
    else []
  listFaults ++ inputFaults

/-- Why settings cannot be used. -/
inductive SettingsFault where
  | unreadable (path : Text)
  | invalid (faults : List SettingFault)

/-- The wording of a fault. -/
def SettingsFault.message : SettingsFault → Text
  | .unreadable path => "Failed to read tsconfig: Cannot read file '" ++ path ++ "'."
  | .invalid faults => "tsconfig parse errors:\n" ++ Text.join "\n" (faults.map SettingFault.message)

/-- **The options of a settings file.** -/
def load (tree : FileTree) (path : Text) : Except SettingsFault Options :=
  match tree.text? path with
  | none => .error (.unreadable path)
  | some text =>
    let (s, _) := resolve tree (tree.files.length + 1) [] path text
    match s.faults ++ fileFaults tree path s with
    | [] => .ok s.options
    | faults => .error (.invalid faults)

/-! ## What options say -/

/-- Whether an option is on; another one decides where it is not set. -/
def isOn (options : Options) (name : Text) (otherwise : Bool) : Bool :=
  match options.value? name with
  | some (.flag value) => value
  | _ => otherwise

/-- The number of the choice of an option. -/
def code? (options : Options) (name : Text) : Option Nat :=
  match options.value? name with
  | some (.code value) => some value
  | _ => none

/-- Whether modules are found only by their whole names. -/
def wholeModuleNames (options : Options) : Bool :=
  match code? options "moduleResolution" with
  | some code => code = 3 || code = 99
  | none =>
    match code? options "module" with
    | some code => 100 ≤ code && code < 200
    | none => false

/-- **How sources are looked at under some options.** -/
def checkOptions (options : Options) : Source.CheckOptions :=
  let strict := isOn options "strict" false
  { strictNulls := isOn options "strictNullChecks" strict
    noImplicitAny := isOn options "noImplicitAny" strict
    noUnusedLocals := isOn options "noUnusedLocals" false
    noUnusedParameters := isOn options "noUnusedParameters" false
    hasServer := (options.value? "types").isNone
    hasBrowser := (options.value? "lib").isNone
    hasMarkup := (options.value? "jsx").isSome
    shortModuleNames := !wholeModuleNames options }

end Settings

end Turnstile
