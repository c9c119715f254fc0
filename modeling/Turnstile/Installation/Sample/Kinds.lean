import Turnstile.Installation.Module

/-! # Sample libraries: a function for every kind of parameter

Each function of `kinds` takes a parameter of another type, and most tell which value arrived. -/

namespace Turnstile.Installation.Kinds

open InstalledFile

/-- The argument itself. -/
def same (args : List Value) : Value := argument args 0

/-- The length of the argument. -/
def length (args : List Value) : Value := (argument args 0).length

/-- The word for the argument. -/
def described (args : List Value) : Value := .text (argument args 0).described

/-- The number of arguments. -/
def count (args : List Value) : Value := .number (.ofNat args.length)

/-- Texts with slashes between them. -/
def slashed (values : List Value) : Except Value Text :=
  (values.mapM Value.interpolated).map (Text.join "/")

/-- The label and the other arguments with commas between them. -/
def labelled (args : List Value) : Except Value Text := do
  let values ← (args.drop 1).mapM Value.spelled
  return (← (argument args 0).interpolated) ++ ":" ++ Text.join "," values

/-- The product of two numbers, the second one being `1` unless it is given. -/
def product (args : List Value) : Value :=
  match argument args 0, argumentOr args 1 (.number 1) with
  | .number x, .number y => .number (x.mul y)
  | _, _ => .number .nan

/-- The sum of integers. -/
def integerSum : (sum : Int) → List Value → Completion
  | sum, [] => .ok (.integer sum)
  | sum, .integer i :: rest => integerSum (sum + i) rest
  | _, _ :: _ =>
    .error (.error "TypeError"
      "Cannot mix BigInt and other types, use explicit conversions" none)

/-- The functions of one parameter with the type of the parameter, the type of the result and the
routine. -/
def unary : List (String × String × String × Routine) :=
  [("aNumber", "number", "number", .returning same),
   ("aBigint", "bigint", "bigint", .returning same),
   ("aString", "string", "string", .returning same),
   ("aBoolean", "boolean", "boolean", .returning same),
   ("anArray", "number[]", "number", .returning length),
   ("aReadonly", "readonly number[]", "number", .returning length),
   ("anArrayLike", "ArrayLike<number>", "number", .returning length),
   ("anInt32", "Int32Array", "number", .returning length),
   ("aFloat64", "Float64Array", "string", .returning described),
   ("aVoid", "void", "string", .returning described),
   ("anUndefined", "undefined", "string", .returning described),
   ("anAny", "any", "string", .returning described),
   ("anUnknown", "unknown", "string", .returning described),
   ("aNull", "null", "string", .returning described),
   ("aUnion", "string | number", "string", .returning described),
   ("nullable", "number | null", "string", .returning described),
   ("undefinable", "number | undefined", "string", .returning described),
   ("aliasedOptional", "Opt", "string", .returning described),
   ("aliasedNumber", "Num", "string", .returning described),
   ("aliasedCallback", "Callback", "string", .returning described),
   ("inlineCallback", "() => string | undefined", "string", .returning described),
   ("setOfUnion", "Set<string | undefined>", "string", .returning described),
   ("literal", "'a' | 'b'", "string", .returning described)]

/-- The other functions: how they are declared, and their routines. -/
def others : List (String × String × Routine) :=
  [("mixed", "a: number, b?: string, c?: boolean): string",
      .wording fun args =>
        slashed [argument args 0, argument args 1, argumentOr args 2 (.boolean true)]),
   ("middle", "a: number, b: string | undefined, c: number): string",
      .wording fun args => slashed [argument args 0, argument args 1, argument args 2]),
   ("noArgs", "): string", .returning fun _ => .text "none"),
   ("restNumbers", "label: string, ...values: number[]): string", .wording labelled),
   ("restBigints", "...values: bigint[]): bigint", .pure (integerSum 0)),
   ("restUnknown", "...values: unknown[]): number", .returning count),
   ("restArrays", "...values: number[][]): number", .returning count),
   ("restUnion", "...values: (string | number)[]): number", .returning count),
   ("arrow", "x: number, y?: number): number", .returning product)]

/-- The declaration of a function, its name and what follows the opening parenthesis given. -/
def declaration (name rest : String) : String :=
  "export declare function " ++ name ++ "(" ++ rest ++ ";"

/-- The files of these libraries. -/
def files : List InstalledFile :=
  [describedModule "fixtures/mix/kinds.ts"
     (["export type Opt = string | undefined;",
       "export type Num = number;",
       "export type Callback = () => string | undefined;"]
       ++ unary.map (fun (name, type, result, _) => declaration name ("x: " ++ type ++ "): " ++ result))
       ++ others.map fun (name, rest, _) => declaration name rest)
     (unary.map (fun (name, _, _, routine) => (name, routine))
       ++ others.map fun (name, _, routine) => (name, routine)),
   describedModule "fixtures/alt/kinds.ts"
     ["export declare function aNumber(x: string): string;",
      "export declare function onlyAlt(): number;"]
     [("aNumber", .wording fun args => (argument args 0).interpolated.map ("alt " ++ ·)),
      ("onlyAlt", .returning fun _ => .number 7)]]

end Turnstile.Installation.Kinds
