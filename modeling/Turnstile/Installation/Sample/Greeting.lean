import Turnstile.Installation.Module

/-! # Sample libraries: greetings and friends

A small library of greetings, one whose only function is slow, one that fails its check, and two
that come as a declaration beside a module. -/

namespace Turnstile.Installation.Greeting

open InstalledFile

/-- A greeting, with an exclamation mark if it is excited. -/
def greet (args : List Value) : Except Value Text := do
  let greeting := "Hello, " ++ (← (argument args 0).interpolated)
  match argument args 1 with
  | .boolean true => return greeting ++ "!"
  | _ => return greeting

/-- A value as a summand. What is no number spoils the sum. -/
def summand : Value → Number
  | .number n => n
  | _ => .nan

/-- The sum of all arguments, from the left. -/
def total (args : List Value) : Value :=
  .number (args.foldl (fun sum v => sum.add (summand v)) (.zero false))

/-- A text in a record. -/
def wrap (args : List Value) : Value := .recordOf [("text", argument args 0)]

/-- A label with a note in parentheses, if there is one. -/
def annotate (args : List Value) : Completion :=
  match argument args 1 with
  | .undefined => .ok (argument args 0)
  | note => do
    return .text ((← (argument args 0).interpolated) ++ " (" ++ (← note.interpolated) ++ ")")

/-- A number doubled. -/
def double (args : List Value) : Value := .number ((summand (argument args 0)).mul 2)

/-- A number doubled, later; negative numbers are refused, also later. -/
def later (args : List Value) : Value :=
  let n := summand (argument args 0)
  if n.lt 0 then .promise true (.error "Error" "negative" none)
  else .promise false (.number (n.mul 2))

/-- One more than a number. -/
def increment (args : List Value) : Value := .number ((summand (argument args 0)).add 1)

/-- The files of these libraries. -/
def files : List InstalledFile :=
  [describedModule "test-library/src/greet.ts"
     ["export interface Greeting \x7b text: string \x7d",
      "export declare function greet(name: string, excited?: boolean): string;",
      "export declare function total(...values: number[]): number;",
      "export declare function wrap(text: string): Greeting;",
      "export declare function annotate(label: string, note: string | undefined): string;",
      "export declare function double(x: number): number;"]
     [("greet", .wording greet), ("total", .returning total), ("wrap", .returning wrap),
      ("annotate", .pure annotate), ("double", .returning double)],
   describedModule "test-library/src/later.ts"
     ["export declare function later(n: number): Promise<number>;"] [("later", .returning later)],
   describedModule "test-library/broken/bad-return.ts"
     ["export function answer(): number \x7b", "  return 'forty-two';", "\x7d"]
     [("answer", .returning fun _ => .text "forty-two")],
   describing "test-library/broken/README.md" [],
   describing "test-library/dist-style/ok.d.ts" ["export declare function add(x: number): number;"],
   module "test-library/dist-style/ok.js" [("add", .returning increment)],
   describing "test-library/dist-style/boom.d.ts" ["export declare function boom(): void;"],
   throwing "test-library/dist-style/boom.js" (.error "Error" "module init failed" none)]

end Turnstile.Installation.Greeting
