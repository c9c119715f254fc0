import Turnstile.Source.Standard.Piece

/-! # Standard numbers, dates and symbols -/

namespace Turnstile.Source.Standard

/-- Functions of one number with a number as their result. -/
def numberFunctions : List String :=
  ["abs", "acos", "asin", "atan", "ceil", "cos", "exp", "floor", "log", "round", "sin", "sqrt", "tan",
   "clz32", "sign", "log10", "log2", "log1p", "expm1", "cosh", "sinh", "tanh", "acosh", "asinh",
   "atanh", "trunc", "fround", "cbrt"].map fun name => name ++ "(x: number): number"

/-- The numbers that have a name. -/
def numberConstants : List String :=
  ["E", "LN10", "LN2", "LOG2E", "LOG10E", "PI", "SQRT1_2", "SQRT2"].map fun name =>
    "readonly " ++ name ++ ": number"

/-- The methods of a date without parameters, and what they give. -/
def dateReaders : List String :=
  (["getTime", "getFullYear", "getUTCFullYear", "getMonth", "getUTCMonth", "getDate", "getUTCDate",
    "getDay", "getUTCDay", "getHours", "getUTCHours", "getMinutes", "getUTCMinutes", "getSeconds",
    "getUTCSeconds", "getMilliseconds", "getUTCMilliseconds", "getTimezoneOffset", "valueOf"].map
    fun name => name ++ "(): number")
  ++ (["toString", "toDateString", "toTimeString", "toUTCString", "toISOString"].map
    fun name => name ++ "(): string")
  ++ (["toLocaleString", "toLocaleDateString", "toLocaleTimeString"].map fun name =>
    name ++ "(locales?: Intl.LocalesArgument, options?: Intl.DateTimeFormatOptions): string")

/-- The methods of a date that change it. -/
def dateWriters : List String :=
  let hours := "(hours: number, min?: number, sec?: number, ms?: number): number"
  let minutes := "(min: number, sec?: number, ms?: number): number"
  let seconds := "(sec: number, ms?: number): number"
  let years := "(year: number, month?: number, date?: number): number"
  ["setTime(time: number): number", "setMilliseconds(ms: number): number",
   "setUTCMilliseconds(ms: number): number", "setSeconds" ++ seconds, "setUTCSeconds" ++ seconds,
   "setMinutes" ++ minutes, "setUTCMinutes" ++ minutes, "setHours" ++ hours, "setUTCHours" ++ hours,
   "setDate(date: number): number", "setUTCDate(date: number): number",
   "setMonth(month: number, date?: number): number",
   "setUTCMonth(month: number, date?: number): number", "setFullYear" ++ years,
   "setUTCFullYear" ++ years]

/-- The declarations about numbers, dates and symbols. -/
def numbers : List Piece :=
  [.interface "Number" ""
    ["toString(radix?: number): string", "toFixed(fractionDigits?: number): string",
     "toExponential(fractionDigits?: number): string", "toPrecision(precision?: number): string",
     "valueOf(): number",
     "toLocaleString(locales?: Intl.LocalesArgument, options?: Intl.NumberFormatOptions): string"],
   .interface "NumberConstructor" ""
    ["new (value?: any): Number", "(value?: any): number", "readonly prototype: Number",
     "readonly MAX_VALUE: number", "readonly MIN_VALUE: number", "readonly NaN: number",
     "readonly NEGATIVE_INFINITY: number", "readonly POSITIVE_INFINITY: number",
     "readonly EPSILON: number", "isFinite(number: unknown): boolean",
     "isInteger(number: unknown): boolean", "isNaN(number: unknown): boolean",
     "isSafeInteger(number: unknown): boolean", "readonly MAX_SAFE_INTEGER: number",
     "readonly MIN_SAFE_INTEGER: number", "parseFloat(string: string): number",
     "parseInt(string: string, radix?: number): number"],
   .value "Number" "NumberConstructor", .value "NaN" "number", .value "Infinity" "number",
   .function "isNaN" "(number: number): boolean", .function "isFinite" "(number: number): boolean",
   .interface "Math" "" (numberConstants ++ numberFunctions
     ++ ["atan2(y: number, x: number): number", "max(...values: number[]): number",
         "min(...values: number[]): number", "pow(x: number, y: number): number",
         "random(): number", "imul(x: number, y: number): number",
         "hypot(...values: number[]): number", "readonly [Symbol.toStringTag]: string"]),
   .value "Math" "Math",
   .interface "BigInt" ""
    ["toString(radix?: number): string",
     "toLocaleString(locales?: Intl.LocalesArgument, options?: BigIntToLocaleStringOptions): string",
     "valueOf(): bigint", "readonly [Symbol.toStringTag]: \"BigInt\""],
   .interface "BigIntConstructor" ""
    ["(value: bigint | boolean | number | string): bigint", "readonly prototype: BigInt",
     "asIntN(bits: number, int: bigint): bigint", "asUintN(bits: number, int: bigint): bigint"],
   .value "BigInt" "BigIntConstructor",
   .interface "Boolean" "" ["valueOf(): boolean"],
   .interface "BooleanConstructor" ""
    ["new (value?: any): Boolean", "<T>(value?: T): boolean", "readonly prototype: Boolean"],
   .value "Boolean" "BooleanConstructor",
   .interface "Symbol" ""
    ["toString(): string", "valueOf(): symbol", "readonly description: string | undefined",
     "readonly [Symbol.toStringTag]: string"],
   .interface "SymbolConstructor" ""
    ["readonly prototype: Symbol", "(description?: string | number): symbol",
     "for(key: string): symbol", "keyFor(sym: symbol): string | undefined",
     "readonly iterator: symbol", "readonly asyncIterator: symbol", "readonly hasInstance: symbol",
     "readonly isConcatSpreadable: symbol", "readonly match: symbol", "readonly matchAll: symbol",
     "readonly replace: symbol", "readonly search: symbol", "readonly species: symbol",
     "readonly split: symbol", "readonly toPrimitive: symbol", "readonly toStringTag: symbol",
     "readonly unscopables: symbol", "readonly dispose: symbol", "readonly asyncDispose: symbol"],
   .value "Symbol" "SymbolConstructor",
   .interface "Date" "" (dateReaders ++ dateWriters ++ ["toJSON(key?: any): string"]),
   .interface "DateConstructor" ""
    ["new (): Date", "new (value: number | string | Date): Date",
     "new (year: number, monthIndex: number, date?: number, hours?: number, minutes?: number, "
       ++ "seconds?: number, ms?: number): Date",
     "(): string", "readonly prototype: Date", "parse(s: string): number",
     "UTC(year: number, monthIndex?: number, date?: number, hours?: number, minutes?: number, "
       ++ "seconds?: number, ms?: number): number",
     "now(): number"],
   .value "Date" "DateConstructor"]

end Turnstile.Source.Standard
