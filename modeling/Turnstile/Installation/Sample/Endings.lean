import Turnstile.Installation.Sample.Greeting

/-! # Sample libraries: ways to end

Functions that return all sorts of values (`values`), throw (`throws`) and promise (`asyncs`),
functions that are handed out under several names (`over`), and modules that hand out nothing. -/

namespace Turnstile.Installation.Endings

open InstalledFile

/-- An error of a kind with the argument as its message. -/
def errorOf (name : Text) (args : List Value) : Value :=
  .raised name (argument args 0).interpolated none

/-- A routine that throws. -/
def throwingRoutine (f : List Value → Value) : Routine := .pure fun args => .error (f args)

/-- A routine that promises to throw. -/
def rejecting (f : List Value → Value) : Routine := .returning fun args => .promise true (f args)

/-- A routine that promises a value. -/
def promising (f : List Value → Value) : Routine := .returning fun args => .promise false (f args)

/-- The argument itself. -/
def same (args : List Value) : Value := argument args 0

/-- A record that hands on ten times the argument. -/
def thenable (args : List Value) : Value :=
  let tenfold := .number ((Greeting.summand (argument args 0)).mul 10)
  .recordOf [("then", .function (some (.handsOn, tenfold)))]

/-- A record within a record, with members of all kinds. -/
def nested : Value :=
  .recordOf
    [("z", .integer 1),
     ("a", .array [some .undefined, some (.number .nan), some (.number (.zero true)),
       some (.recordOf [("b", .integer 2)])]),
     ("10", .text "ten"),
     ("2", .text "two"),
     ("skip", .undefined),
     ("s", .text "q\"\n")]

/-- An array with elements of all kinds. -/
def list : Value :=
  .array [some (.integer 1), some (.text "x"), some .null, some (.boolean true), some (.array []),
    some (.recordOf [])]

/-- Functions without parameters: the type of the result, and the result. -/
def constants : List (String × String × Value) :=
  [("nothing", "void", .undefined),
   ("nil", "null", .null),
   ("big", "bigint", .integer 1267650600228229401496703205376),
   ("negativeZero", "number", .number (.zero true)),
   ("third", "number", .number (.ofRatio false 1 3)),
   ("nan", "number", .number .nan),
   ("nested", "object", nested),
   ("list", "unknown[]", list),
   ("typed", "Int32Array", .numberVector .int32 [.ofInt 5, .ofInt (-6)]),
   ("truth", "boolean", .boolean true),
   ("symbol", "symbol", .symbol "tag"),
   ("blank", "string", .text []),
   ("percent", "string", .text "100% %s %d %%"),
   ("lines", "string", .text "one\ntwo\n")]

/-- The files of these libraries. -/
def files : List InstalledFile :=
  [describedModule "fixtures/mix/asyncs.ts"
     ["export declare function resolved(n: number): Promise<number>;",
      "export declare function nothing(): Promise<void>;",
      "export declare function rejectRange(text: string): Promise<never>;",
      "export declare function rejectString(text: string): Promise<never>;",
      "export declare function rejectNull(): Promise<never>;",
      "export declare function chained(n: number): Promise<number>;",
      "export declare function thenable(n: number): \x7b then(done: (v: number) => void): void \x7d;"]
     [("resolved", promising same), ("nothing", promising fun _ => .undefined),
      ("rejectRange", rejecting (errorOf "RangeError")), ("rejectString", rejecting same),
      ("rejectNull", rejecting fun _ => .null), ("chained", promising Greeting.increment),
      ("thenable", .returning thenable)],
   describedModule "fixtures/mix/throws.ts"
     ["export declare function range(text: string): never;",
      "export declare function custom(text: string): never;",
      "export declare function text(value: string): never;",
      "export declare function any(value: unknown): never;"]
     [("range", throwingRoutine (errorOf "RangeError")),
      ("custom", throwingRoutine (errorOf "CustomError")), ("text", throwingRoutine same),
      ("any", throwingRoutine same)],
   describedModule "fixtures/mix/values.ts"
     (constants.map fun (name, type, _) => "export declare function " ++ name ++ "(): " ++ type ++ ";")
     (constants.map fun (name, _, value) => (name, .returning fun _ => value)),
   describedModule "fixtures/mix/over.ts"
     ["export function pick(x: number): string;",
      "export function pick(x: string, y: number): string;",
      "export function pick(x: number | string, y?: number): string \x7b",
      "  return '';",
      "\x7d",
      "function hidden(a: number): number \x7b",
      "  return a + 1;",
      "\x7d",
      "export \x7b hidden as shown, hidden as again \x7d;",
      "export default function (a: string): string \x7b",
      "  return a + '!';",
      "\x7d"]
     [("pick", .returning fun args =>
         .text ((argument args 0).typeWord ++ "/" ++ (argument args 1).typeWord)),
      ("shown", .returning Greeting.increment), ("again", .returning Greeting.increment),
      ("default", .wording fun args => (argument args 0).interpolated.map (· ++ "!"))],
   describedModule "fixtures/mix/sub/inner.ts" ["export declare function deep(x: number): number;"]
     [("deep", .returning fun args =>
         .number ((Greeting.summand (argument args 0)).add (.ofInt (-1))))],
   describedModule "fixtures/mix/empty.ts" ["export \x7b\x7d;"] [],
   describing "fixtures/mix/script.d.ts"
     ["declare const answer: number;", "declare function ask(x: number): number;"],
   module "fixtures/mix/script.js" []]

end Turnstile.Installation.Endings
