import Turnstile.Number.Shortest
import Turnstile.Path

/-! # Options of a settings file

* **`SettingType`** is what an option takes, **`optionTypes`** lists the options.
* **`targets`**, **`modules`** and **`moduleResolutions`** are the choices of the options that take
  one, with the numbers that they stand for. -/

namespace Turnstile.Settings

/-- One of the words that an option takes, the number that it stands for, and whether it is told to
those who ask. -/
structure Choice where
  word : Text
  code : Nat
  isTold : Bool

/-- What an option takes. -/
inductive SettingType where
  | flag
  | text
  /-- A path, which is made absolute. -/
  | path
  | number
  | record
  | choice (choices : List Choice)
  | list (element : SettingType)
  /-- The names of libraries of declarations. -/
  | library
  /-- One item or a list of them. -/
  | listOrItem (element : SettingType)

/-- Choices that are told. -/
def told (choices : List (String × Nat)) : List Choice :=
  choices.map fun (word, code) => ⟨word, code, true⟩

/-- Choices that are not told. -/
def untold (choices : List (String × Nat)) : List Choice :=
  choices.map fun (word, code) => ⟨word, code, false⟩

/-- The language versions. -/
def targets : List Choice :=
  untold [("es3", 0)]
    ++ told [("es5", 1), ("es6", 2), ("es2015", 2), ("es2016", 3), ("es2017", 4), ("es2018", 5),
        ("es2019", 6), ("es2020", 7), ("es2021", 8), ("es2022", 9), ("es2023", 10), ("es2024", 11),
        ("esnext", 99)]

/-- The forms of modules. -/
def modules : List Choice :=
  told [("none", 0), ("commonjs", 1), ("amd", 2), ("system", 4), ("umd", 3), ("es6", 5), ("es2015", 5),
    ("es2020", 6), ("es2022", 7), ("esnext", 99), ("node16", 100), ("node18", 101), ("node20", 102),
    ("nodenext", 199), ("preserve", 200)]

/-- The ways to find modules. -/
def moduleResolutions : List Choice :=
  told [("node10", 2)] ++ untold [("node", 2)]
    ++ told [("classic", 1), ("node16", 3), ("nodenext", 99), ("bundler", 100)]

/-- The ways to write mixed markup. -/
def markupForms : List Choice :=
  told [("preserve", 1), ("react-native", 3), ("react-jsx", 4), ("react-jsxdev", 5), ("react", 2)]

/-- The ways to tell modules from scripts. -/
def moduleDetections : List Choice := told [("auto", 2), ("legacy", 1), ("force", 3)]

/-- The ways to end lines. -/
def lineEnds : List Choice := told [("crlf", 0), ("lf", 1)]

/-- The words of a line, between blanks. -/
def words (line : String) : List Text := Text.split (Text.unit ' ') line

/-- The options that are on or off. -/
def flagNames : List Text :=
  words "allowArbitraryExtensions allowImportingTsExtensions allowJs allowSyntheticDefaultImports"
  ++ words "allowUmdGlobalAccess allowUnreachableCode allowUnusedLabels alwaysStrict"
  ++ words "assumeChangesOnlyAffectDirectDependencies checkJs composite declaration declarationMap"
  ++ words "diagnostics disableReferencedProjectLoad disableSizeLimit disableSolutionSearching"
  ++ words "disableSourceOfProjectReferenceRedirect downlevelIteration emitBOM emitDeclarationOnly"
  ++ words "emitDecoratorMetadata erasableSyntaxOnly esModuleInterop exactOptionalPropertyTypes"
  ++ words "experimentalDecorators explainFiles extendedDiagnostics"
  ++ words "forceConsistentCasingInFileNames importHelpers incremental inlineSourceMap inlineSources"
  ++ words "isolatedDeclarations isolatedModules keyofStringsOnly libReplacement listEmittedFiles"
  ++ words "listFiles noCheck noEmit noEmitHelpers noEmitOnError noErrorTruncation"
  ++ words "noFallthroughCasesInSwitch noImplicitAny noImplicitOverride noImplicitReturns"
  ++ words "noImplicitThis noImplicitUseStrict noLib noPropertyAccessFromIndexSignature noResolve"
  ++ words "noStrictGenericChecks noUncheckedIndexedAccess noUncheckedSideEffectImports"
  ++ words "noUnusedLocals noUnusedParameters preserveConstEnums preserveSymlinks"
  ++ words "preserveValueImports preserveWatchOutput pretty removeComments resolveJsonModule"
  ++ words "resolvePackageJsonExports resolvePackageJsonImports rewriteRelativeImportExtensions"
  ++ words "skipDefaultLibCheck skipLibCheck sourceMap strict strictBindCallApply"
  ++ words "strictBuiltinIteratorReturn strictFunctionTypes strictNullChecks"
  ++ words "strictPropertyInitialization stripInternal suppressExcessPropertyErrors"
  ++ words "suppressImplicitAnyIndexErrors traceResolution useDefineForClassFields"
  ++ words "useUnknownInCatchVariables verbatimModuleSyntax"

/-- The options that take a text. -/
def textNames : List Text :=
  words "charset ignoreDeprecations jsxFactory jsxFragmentFactory jsxImportSource mapRoot out"
  ++ words "reactNamespace sourceRoot"

/-- The options that take a path. -/
def pathNames : List Text :=
  words "baseUrl declarationDir generateCpuProfile generateTrace outDir outFile rootDir tsBuildInfoFile"

/-- The options that take a list of texts. -/
def listNames : List Text := words "customConditions moduleSuffixes rootDirs typeRoots types"

/-- **The options with what they take.** -/
def optionTypes : List (Text × SettingType) :=
  flagNames.map (fun name => (name, SettingType.flag))
    ++ textNames.map (fun name => (name, SettingType.text))
    ++ pathNames.map (fun name => (name, SettingType.path))
    ++ listNames.map (fun name => (name, SettingType.list .text))
    ++ [(Text.ofString "target", SettingType.choice targets),
        (Text.ofString "module", .choice modules),
        (Text.ofString "moduleResolution", .choice moduleResolutions),
        (Text.ofString "jsx", .choice markupForms),
        (Text.ofString "moduleDetection", .choice moduleDetections),
        (Text.ofString "newLine", .choice lineEnds),
        (Text.ofString "lib", .list .library),
        (Text.ofString "plugins", .list .record),
        (Text.ofString "paths", .record),
        (Text.ofString "maxNodeModuleJsDepth", .number)]

/-- The entries of a settings file with what they take. -/
def entryTypes : List (Text × SettingType) :=
  [(Text.ofString "compilerOptions", SettingType.record),
   (Text.ofString "watchOptions", .record),
   (Text.ofString "typeAcquisition", .record),
   (Text.ofString "extends", .listOrItem .text),
   (Text.ofString "references", .list .record),
   (Text.ofString "files", .list .text),
   (Text.ofString "include", .list .text),
   (Text.ofString "exclude", .list .text),
   (Text.ofString "compileOnSave", .flag)]

/-- The word for what an option takes. -/
def SettingType.word : SettingType → Text
  | .flag => "boolean"
  | .text => "string"
  | .path => "string"
  | .number => "number"
  | .record => "object"
  | .choice _ => "string"
  | .list _ => "Array"
  | .library => "string"
  | .listOrItem element => element.word ++ " or Array"

/-- The libraries of declarations that go by a version of the language, with the version. -/
def libraryVersions : List Text :=
  words "es5 es2015 es2016 es2017 es2018 es2019 es2020 es2021 es2022 es2023 es2024 esnext dom"
  ++ words "dom.iterable dom.asynciterable webworker webworker.importscripts webworker.iterable"
  ++ words "webworker.asynciterable scripthost decorators decorators.legacy"

/-- Libraries under other names. -/
def libraryAliases : List (Text × Text) :=
  [(Text.ofString "es6", Text.ofString "es2015"), (Text.ofString "es7", Text.ofString "es2016")]

/-- The file of a library of declarations, by its name in any case. -/
def libraryFile? (name : Text) : Option Text :=
  let name := name.toLower
  let version := (libraryAliases.lookup name).getD name
  let start := ((Text.split (Text.unit '.') version).head?).getD []
  if libraryVersions.contains version || (start ≠ version && libraryVersions.contains start) then
    some ("lib." ++ version ++ ".d.ts")
  else none

end Turnstile.Settings
