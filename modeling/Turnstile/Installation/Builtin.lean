import Turnstile.Installation.Module
import Turnstile.Routine.Fibonacci
import Turnstile.Routine.SquareSum
import Turnstile.Routine.Strings

/-! # The built-in libraries

Three libraries come with the program: sums of squares, Fibonacci numbers and owned strings. -/

namespace Turnstile.Installation

open InstalledFile

/-- The files of the built-in libraries. -/
def builtinFiles : List InstalledFile :=
  [describing "dist/routines/array.d.ts"
     ["export declare function sumOfSquares(values: ArrayLike<number>, length?: number): bigint;"],
   module "dist/routines/array.js" [("sumOfSquares", SquareSum.routine)],
   describing "dist/routines/fib.d.ts" ["export declare function fibonacci(n: number): bigint;"],
   module "dist/routines/fib.js" [("fibonacci", Fibonacci.routine)],
   describing "dist/routines/string-lib.d.ts"
     ["interface Allocator \x7b\x7d",
      "interface OwnedString \x7b\x7d",
      "export declare function createString(input: string, allocator?: Allocator): OwnedString | null;",
      "export declare function freeString(str?: OwnedString | null): void;"],
   module "dist/routines/string-lib.js"
     [("createString", Strings.create), ("freeString", Strings.free)]]

end Turnstile.Installation
