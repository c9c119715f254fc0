import Turnstile.Installation.Module

/-! # Sample libraries: several files of one name

Libraries whose source and module are told from others by the order in which endings are tried, and
libraries with odd names. -/

namespace Turnstile.Installation.Ordering

open InstalledFile

/-- A text with the argument behind it. -/
def followed (text : Text) (args : List Value) : Except Value Text :=
  (argument args 0).interpolated.map (text ++ ·)

/-- A routine that says which module it belongs to. -/
def named (name : Text) : Routine := .returning fun _ => .text name

/-- Sources and modules of the same names. -/
def orderFiles : List InstalledFile :=
  [module "fixtures/order/a.js" [("who", .wording (followed "a.js "))],
   describedModule "fixtures/order/a.ts" ["export declare function who(x: number): string;"]
     [("who", named "a.ts")],
   describedModule "fixtures/order/b.mts" ["export declare function who(x?: number): string;"]
     [("who", named "b.mts")],
   describing "fixtures/order/c.d.mts" ["export declare function who(x?: bigint): string;"],
   module "fixtures/order/c.mjs" [("who", .wording (followed "c.mjs "))],
   describedModule "fixtures/order/d.mts" ["export declare function who(x: string): string;"]
     [("who", named "d.mts")],
   describedModule "fixtures/order/d.ts" ["export declare function who(x: boolean): string;"]
     [("who", named "d.ts")],
   describing "fixtures/order/e.d.ts"
     ["export declare function who(...xs: string[]): string;",
      "export declare function missing(): void;",
      "export declare function notCallable(): number;",
      "export declare const value: number;"],
   ⟨"fixtures/order/e.js", [], some (.ok
     [("who", .routine (.returning fun args => .text ("e.js " ++ Text.ofNat args.length))),
      ("notCallable", .constant (.number 3)),
      ("value", .constant (.number 4)),
      ("undeclared", .routine (.returning fun _ => .number 5))])⟩,
   module "fixtures/order/e.mjs" [("who", named "e.mjs")],
   describing "fixtures/order/f.d.ts" ["export declare function who(): string;"],
   module "fixtures/order/g.js" [("who", named "g.js")],
   describing "fixtures/order/h.d.ts" ["export declare function who(x: string): string;"],
   describedModule "fixtures/order/h.mts" ["export declare function who(x: number): string;"]
     [("who", named "h.mts")],
   describing "fixtures/order/i.d.ts" ["export declare function who(x: unknown): string;"],
   module "fixtures/order/i.mjs"
     [("who", .returning fun args => .text ("i.mjs " ++ (argument args 0).typeWord))]]

/-- Names with units that are seldom in names. -/
def oddNames : List String :=
  ["", "dot.ted", "per%20cent#hash", "q'uote", "with space", "ünï-码"]

/-- The same library under each of the odd names. -/
def oddFiles : List InstalledFile :=
  oddNames.map fun name =>
    describedModule ("fixtures/odd names/" ++ name ++ ".ts")
      ["export declare function f(x: number): number;"]
      [("f", .returning fun args => argument args 0)]

/-- The files of these libraries. -/
def files : List InstalledFile := orderFiles ++ oddFiles

end Turnstile.Installation.Ordering
