import Turnstile.Proofs.CommandLine.Item
import Turnstile.Proofs.CommandLine.ReadArguments
import Turnstile.Proofs.Library.Builtin
import Turnstile.Proofs.Number.ReadBack
import Turnstile.Proofs.Routine.Fibonacci
import Turnstile.Proofs.Routine.SquareSum

/-! # The way of numbers through the program

What a run prints that calls a routine of numbers: the arguments are recognised as positional, read as
numbers, held against the signature, summed up or counted along, and the result is written in digits.

* One lemma for each stage: **`parse_positional`** for the arguments, **`prepare_positional`** for the
  library and the function, **`present_integer`** for the call.
* **`whole_positional`** puts the stages together for any routine that ends with an integer.
* **`run_numbers`** says what is printed for sums of squares and for Fibonacci numbers. -/

namespace Turnstile

open Invocation

variable {host : Host} {library : Library} {function : Text} {raw : List Text} {c : Callable}
  {arguments : List Value}

/-! ## The arguments -/

/-- **Positional arguments** are taken up one after the other. -/
theorem scan_positional (r : Reading) (h : ∀ t ∈ raw, IsPositional t) :
    scan r raw = .ok (r.addPositional raw) := by
  induction raw generalizing r with
  | nil => simp only [scan, Reading.addPositional, List.append_nil]
  | cons t raw ih =>
    have ht : IsPositional t := h t List.mem_cons_self
    have hraw : ∀ t ∈ raw, IsPositional t := fun t ht => h t (List.mem_cons_of_mem _ ht)
    rw [scan, of_stands (.positional ht)]
    simp only [ih _ hraw, Reading.addPositional, List.append_assoc, List.singleton_append]

/-- **A line without options** is a library, a function and its arguments. -/
theorem parse_positional (directory builtin : Text) {name : Text} (hname : name ≠ [])
    (hfunction : function ≠ []) (h : ∀ t ∈ name :: function :: raw, IsPositional t) :
    parse directory builtin (name :: function :: raw)
      = .ok ⟨Path.resolve directory builtin, none, name, some function, raw, false, false, 1, false,
          false, false⟩ := by
  -- Two dashes in front make no difference, as there is no option that they could stop.
  have hscan :
      scan {} (name :: function :: raw) = scan {} ((("--" : Text)) :: name :: function :: raw) :=
    scan_positional {} h
  rw [← parse_terminated directory builtin name function hname hfunction raw, parse, hscan, ← parse]

/-! ## The library and the function -/

/-- **A line without options calls the function** with what its arguments are read as. -/
theorem prepare_positional (hprovides : host.Provides library) (hname : library.name ≠ [])
    (hfunction : function ≠ []) (hpositional : ∀ t ∈ library.name :: function :: raw, IsPositional t)
    (hcallable : Registry.callableIn library library.name function = .ok c)
    (hread : c.signature.readArguments raw = .ok arguments) :
    Task.prepare host (library.name :: function :: raw) = ([], .ok (.call c arguments)) := by
  have hopened : Registry.opened host (some (Path.resolve host.directory host.builtinPath)) none
      false = .ok host.registry := rfl
  have hgiven : isGiven (some function) = true := by simp [isGiven, hfunction]
  have hlookup : [(library.name, library)].lookup library.name = some library := by simp
  simp only [Task.prepare, parse_positional _ _ hname hfunction hpositional, Invocation.registry,
    hopened, hprovides.add, Task.ofInvocation, hgiven, Registry.callable, Registry.library, hlookup,
    bind, Except.bind, Option.getD_some, hcallable, hread]
  rfl

/-! ## The call and the line -/

/-- **An integer that a routine ends with is printed** in digits, and there is nothing to give back. -/
theorem present_integer {world world' : World} {i : Int}
    (hadmitted : c.signature.admit arguments = .ok ())
    (hcall : c.target.call world arguments = (world', .ok (.integer i))) (line : Text → Line) :
    c.present world arguments line = (world', [line (Text.ofInt i)], some (.ok ())) := by
  have hsettled : c.callAndWait world arguments = (world', some (.ok (.integer i))) := by
    rw [Callable.callAndWait, Callable.call, hadmitted]
    simp only [hcall]
    rfl
  rw [Callable.present, hsettled]
  rfl

/-- **A whole run** of a line without options, when the routine ends with an integer. -/
theorem whole_positional (hprovides : host.Provides library) (hname : library.name ≠ [])
    (hfunction : function ≠ []) (hpositional : ∀ t ∈ library.name :: function :: raw, IsPositional t)
    (hcallable : Registry.callableIn library library.name function = .ok c)
    (hread : c.signature.readArguments raw = .ok arguments)
    (hadmitted : c.signature.admit arguments = .ok ()) {world world' : World} {i : Int}
    (hcall : c.target.call world arguments = (world', .ok (.integer i))) :
    Run.whole host world (library.name :: function :: raw)
      = ([.output (Text.ofInt i)], ⟨world', .inr (.exited 0)⟩) := by
  have hcomplete := complete_call (present_integer hadmitted hcall .output)
  simp only [Run.whole, Run.start,
    prepare_positional hprovides hname hfunction hpositional hcallable hread, Run.stepsLeft,
    hcomplete, List.nil_append]

/-! ## Numbers as arguments -/

/-- A text that starts with an integer is positional, also when the integer is negative. -/
theorem isPositional_of_ofInt_prefix {i : Int} {t : Text} (h : Text.ofInt i <+: t) :
    IsPositional t := by
  obtain ⟨rest, rfl⟩ := h
  obtain ⟨u, digits, hsplit, hdigit⟩ := Text.ofNat_eq_cons i.natAbs
  by_cases hneg : i < 0
  · -- The minus sign is a dash with a digit behind it.
    refine Or.inr ⟨u, digits ++ rest, ?_, hdigit⟩
    rw [Text.ofInt, if_pos hneg, hsplit]
    rfl
  · refine Or.inl ?_
    rw [Text.ofInt, if_neg hneg, hsplit, List.cons_append, List.head?_cons, Ne, Option.some.injEq]
    rintro rfl
    exact absurd hdigit (by decide)

theorem isPositional_ofNat (n : Nat) : IsPositional (Text.ofNat n) := by
  rw [← Text.ofInt_natCast]
  exact isPositional_of_ofInt_prefix List.prefix_rfl

/-- A list of integers is positional, also an empty one. -/
theorem isPositional_join_ofInt (xs : List Int) :
    IsPositional (Text.join "," (xs.map Text.ofInt)) := by
  match xs with
  | [] => exact Or.inl nofun
  | [x] =>
    refine isPositional_of_ofInt_prefix (i := x) ?_
    simp [Text.join]
  | x :: y :: xs =>
    refine isPositional_of_ofInt_prefix (i := x) ?_
    rw [List.map_cons, List.map_cons, Text.join_cons_cons, List.append_assoc]
    exact List.prefix_append _ _

/-- A natural number is read where a number is asked for. -/
theorem read_number_ofNat (n : Nat) :
    ValueKind.number.read (Text.ofNat n) = .ok (.number (.ofNat n)) := by
  rw [ValueKind.read, ← Text.ofInt_natCast, readNumber_ofInt, Number.ofInt_natCast]
  rfl

/-- A list of integers is read where an array of numbers is asked for. -/
theorem read_numberArray_join (xs : List Int) :
    ValueKind.numberArray.read (Text.join "," (xs.map Text.ofInt))
      = .ok (SquareSum.arrayOf xs) := by
  rw [ValueKind.read, readNumbers_join, SquareSum.arrayOf]
  simp only [Except.map, List.map_map]
  rfl

/-- One text is read by the first parameter, -/
theorem readArguments_one {s : Signature} {p : Parameter} {t : Text} {v : Value}
    (hp : s.parameterAt? 0 = some p) (hread : p.kind.read t = .ok v) :
    s.readArguments [t] = .ok [v] := by
  simp only [Signature.readArguments, Signature.readFrom, Signature.readArgument, hp, hread, bind,
    Except.bind]
  rfl

/-- and a second one by the second parameter. -/
theorem readArguments_two {s : Signature} {p q : Parameter} {t t' : Text} {v v' : Value}
    (hp : s.parameterAt? 0 = some p) (hq : s.parameterAt? 1 = some q)
    (hread : p.kind.read t = .ok v) (hread' : q.kind.read t' = .ok v') :
    s.readArguments [t, t'] = .ok [v, v'] := by
  simp only [Signature.readArguments, Signature.readFrom, Signature.readArgument, Nat.zero_add, hp,
    hq, hread, hread', bind, Except.bind]
  rfl

/-! ## The two routines -/

/-- **Sums of squares**: a list of 32-bit signed integers and a number of them. -/
theorem whole_sumOfSquares {source module : Text}
    (hprovides : host.Provides (SquareSum.library source module)) (world : World) {xs : List Int}
    (hxs : ∀ x ∈ xs, SquareSum.IsInt32 x) (hlength : xs.length ≤ 2 ^ 53) {k : Nat}
    (hk : k ≤ xs.length) :
    Run.whole host world ["array", "sumOfSquares", Text.join "," (xs.map Text.ofInt), Text.ofNat k]
      = ([.output (Text.ofInt (SquareSum.squares (xs.take k)))],
        ⟨⟨world.memory, world.calls + 1⟩, .inr (.exited 0)⟩) := by
  obtain ⟨total, hsum, htotal⟩ := SquareSum.sum_array hxs hlength hk
  have hread := readArguments_two (s := SquareSum.signature) rfl rfl (read_numberArray_join xs)
    (read_number_ofNat k)
  have hadmitted := Signature.admit_readArguments hread
  rw [← htotal]
  have hname : (SquareSum.library source module).name = "array" := rfl
  refine whole_positional hprovides (by rw [hname]; decide) (by decide) ?_
    (Builtin.callableIn_library .sumOfSquares source module) hread hadmitted
    (SquareSum.call_of_sum hsum rfl rfl world)
  simp only [List.forall_mem_cons, hname]
  exact ⟨by decide, by decide, isPositional_join_ofInt xs, isPositional_ofNat k, nofun⟩

/-- **Fibonacci numbers**: an index. -/
theorem whole_fibonacci {source module : Text}
    (hprovides : host.Provides (Fibonacci.library source module)) (world : World) {n : Nat}
    (hn : n ≤ Number.maxSafeInteger) :
    Run.whole host world ["fib", "fibonacci", Text.ofNat n]
      = ([.output (Text.ofInt (Nat.fib n))], ⟨⟨world.memory, world.calls + 1⟩, .inr (.exited 0)⟩) := by
  have hread := readArguments_one (s := Fibonacci.signature) rfl (read_number_ofNat n)
  have hadmitted := Signature.admit_readArguments hread
  have hname : (Fibonacci.library source module).name = "fib" := rfl
  refine whole_positional hprovides (by rw [hname]; decide) (by decide) ?_
    (Builtin.callableIn_library .fibonacci source module) hread hadmitted
    (Fibonacci.call_of_value (Fibonacci.value_ofNat hn) world)
  simp only [List.forall_mem_cons, hname]
  exact ⟨by decide, by decide, isPositional_ofNat n, nofun⟩

/-! ## What is printed -/

/-- **Numbers are printed exactly.** A run that is asked for the sum of the squares of the first
elements of a list of 32-bit signed integers writes the digits of that sum, and one that is asked for
the Fibonacci number at a safe index writes the digits of it; both end with code `0`. The list may have
as many elements as numbers can count, which is more than an array can hold. -/
theorem run_numbers (host : Host) (source module source' module' : Text)
    (hsums : host.Provides (SquareSum.library source module))
    (hfibonacci : host.Provides (Fibonacci.library source' module')) (world : World) :
    (∀ xs : List Int, (∀ x ∈ xs, -2 ^ 31 ≤ x ∧ x < 2 ^ 31) → xs.length ≤ 2 ^ 53 → ∀ k ≤ xs.length,
        ∃ r, Run.whole host world (["array", "sumOfSquares",
              String.intercalate "," (xs.map toString), toString k].map Text.ofString)
            = ([.output (Text.ofString (toString ((xs.take k).map fun x => x ^ 2).sum))], r)
          ∧ r.code? = some 0)
      ∧ ∀ n ≤ 2 ^ 53 - 1,
        ∃ r, Run.whole host world (["fib", "fibonacci", toString n].map Text.ofString)
            = ([.output (Text.ofString (toString (Nat.fib n)))], r)
          ∧ r.code? = some 0 := by
  constructor
  · intro xs hxs hlength k hk
    have hjoin : Text.ofString (String.intercalate "," (xs.map toString))
        = Text.join "," (xs.map Text.ofInt) := by
      rw [Text.ofString_intercalate, List.map_map]
      congr 1
      exact List.map_congr_left fun x _ => Text.ofString_toString_int x
    have hwhole := whole_sumOfSquares hsums world hxs hlength hk
    refine ⟨⟨⟨world.memory, world.calls + 1⟩, .inr (.exited 0)⟩, ?_, rfl⟩
    simp only [List.map_cons, List.map_nil, hjoin, Text.ofString_toString, Text.ofString_toString_int]
    exact hwhole
  · intro n hn
    have hwhole := whole_fibonacci hfibonacci world hn
    refine ⟨⟨⟨world.memory, world.calls + 1⟩, .inr (.exited 0)⟩, ?_, rfl⟩
    simp only [List.map_cons, List.map_nil, Text.ofString_toString]
    rw [← Text.ofInt_natCast (Nat.fib n)]
    exact hwhole

/-- A list that starts with a negative number, and an index with a result that no number holds. -/
theorem run_numbers_shelf :
    (∃ r, Run.whole (Host.shelf Builtin.shelf) .initial
          (["array", "sumOfSquares", "-3,0,2147483647", "2"].map Text.ofString)
        = ([.output (Text.ofString "9")], r) ∧ r.code? = some 0)
      ∧ ∃ r, Run.whole (Host.shelf Builtin.shelf) .initial
          (["fib", "fibonacci", "100"].map Text.ofString)
        = ([.output (Text.ofString "354224848179261915075")], r) ∧ r.code? = some 0 := by
  obtain ⟨hsums, hfibonacci⟩ := run_numbers (Host.shelf Builtin.shelf) "/lib/array.d.ts" "/lib/array.js"
    "/lib/fib.d.ts" "/lib/fib.js" (Builtin.provides_shelf (by simp [Builtin.shelf]))
    (Builtin.provides_shelf (by simp [Builtin.shelf])) .initial
  have hlist : String.intercalate "," (([-3, 0, 2147483647] : List Int).map toString)
      = "-3,0,2147483647" := by decide
  have hsum : ((([-3, 0, 2147483647] : List Int).take 2).map fun x => x ^ 2).sum = 9 := by decide
  have hcount : toString 2 = "2" := by decide
  have hdigits : toString (9 : Int) = "9" := by decide
  have hsquares := hsums [-3, 0, 2147483647] (by decide) (by decide) 2 (by decide)
  rw [hlist, hsum, hcount, hdigits] at hsquares
  have hfib : Nat.fib 100 = 354224848179261915075 := by simp [Nat.fib]
  have hindex : toString 100 = "100" := by decide
  have hresult : toString 354224848179261915075 = "354224848179261915075" := by decide
  have hlast := hfibonacci 100 (by decide)
  rw [hfib, hindex, hresult] at hlast
  exact ⟨hsquares, hlast⟩

end Turnstile
