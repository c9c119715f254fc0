import Turnstile.Installation.Module

/-! # Sample libraries: faulty ones

Sources that fail their check, and modules that throw while they are loaded. -/

namespace Turnstile.Installation.Faulty

open InstalledFile

/-- The files of these libraries. -/
def files : List InstalledFile :=
  [describedModule "fixtures/bad/implicit.ts"
     ["export function loose(x, y = 2) \x7b", "  return y;", "\x7d"]
     [("loose", .returning fun args => argumentOr args 1 (.number 2))],
   describing "fixtures/bad/import.ts"
     ["import \x7b gone \x7d from './gone.js';",
      "",
      "export function use(): number \x7b",
      "  return gone();",
      "\x7d"],
   describing "fixtures/bad/init-string.d.ts" ["export declare function f(): void;"],
   throwing "fixtures/bad/init-string.js" (.text "just a string"),
   describing "fixtures/bad/init-type.d.ts" ["export declare function f(): void;"],
   throwing "fixtures/bad/init-type.js" (.error "TypeError" "typed failure" none),
   describedModule "fixtures/bad/many.ts"
     ["export const first: number = 'one';",
      "export function second(flag: boolean): string \x7b",
      "  return flag;",
      "\x7d",
      "",
      "export function third(): number \x7b",
      "  return missingName;",
      "\x7d"]
     [("second", .returning fun args => argument args 0),
      ("third", .pure fun _ => .error (.error "ReferenceError" "missingName is not defined" none))]]

end Turnstile.Installation.Faulty
