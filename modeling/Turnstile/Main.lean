import Turnstile.CommandLine.Run
import Turnstile.Installation

/-! # The program

Runs its arguments against the installation in the current directory, and prints the time that each
profiled call took. -/

namespace Turnstile

/-- A time in nanoseconds as milliseconds with three decimals. -/
def milliseconds (nanoseconds : Nat) : Text :=
  let micros := (nanoseconds + 500) / 1000
  let decimals := Text.ofNat (1000 + micros % 1000)
  Text.ofNat (micros / 1000) ++ "." ++ decimals.drop 1

/-- Print a line. -/
def printLine (elapsed : Text) (line : Line) : IO Unit :=
  match line with
  | .fault _ => IO.eprintln (line.toText elapsed).toString
  | _ => IO.println (line.toText elapsed).toString

/-- Take the steps of a run until it ends, printing what it writes, and answer the code. A process
that a value is thrown out of ends with `1`, one that is left waiting with `13`. -/
partial def follow (r : Run) : IO Nat := do
  match r.state with
  | .inr (.exited code) => return code
  | .inr (.threw _) => return 1
  | .inr .waiting => return 13
  | .inl _ =>
    let before ← IO.monoNanosNow
    let (lines, r) := r.next
    let after ← IO.monoNanosNow
    lines.forM (printLine (milliseconds (after - before)))
    follow r

end Turnstile

open Turnstile in
/-- Run the program. -/
def main (arguments : List String) : IO UInt32 := do
  let directory := Text.ofString (← IO.currentDir).toString
  let host := (Installation.standard directory).host directory
  let (lines, r) := Run.start host .initial (arguments.map Text.ofString)
  lines.forM (printLine [])
  return (← follow r).toUInt32
