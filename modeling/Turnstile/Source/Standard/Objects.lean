import Turnstile.Source.Standard.Piece

/-! # Standard objects, functions, failures, promises and types made from others -/

namespace Turnstile.Source.Standard

/-- The declarations about objects and functions. -/
def objects : List Piece :=
  [.value "undefined" "undefined", .value "globalThis" "any",
   .synonym "PropertyKey" "" "string | number | symbol",
   .interface "PropertyDescriptor" ""
    ["configurable?: boolean", "enumerable?: boolean", "value?: any", "writable?: boolean",
     "get?(): any", "set?(v: any): void"],
   .interface "PropertyDescriptorMap" "" ["[key: PropertyKey]: PropertyDescriptor"],
   .interface "Object" ""
    ["constructor: Function", "toString(): string", "toLocaleString(): string", "valueOf(): Object",
     "hasOwnProperty(v: PropertyKey): boolean", "isPrototypeOf(v: Object): boolean",
     "propertyIsEnumerable(v: PropertyKey): boolean"],
   .interface "ObjectConstructor" ""
    ["new (value?: any): Object", "(): any", "(value: any): any", "readonly prototype: Object",
     "getPrototypeOf(o: any): any",
     "getOwnPropertyDescriptor(o: any, p: PropertyKey): PropertyDescriptor | undefined",
     "getOwnPropertyNames(o: any): string[]", "getOwnPropertySymbols(o: any): symbol[]",
     "create(o: object | null): any",
     "create(o: object | null, properties: PropertyDescriptorMap & ThisType<any>): any",
     "defineProperty<T>(o: T, p: PropertyKey, attributes: PropertyDescriptor & ThisType<any>): T",
     "defineProperties<T>(o: T, properties: PropertyDescriptorMap & ThisType<any>): T",
     "seal<T>(o: T): T", "freeze<T extends Function>(f: T): T",
     "freeze<T extends \x7b [idx: string]: U | null | undefined | object \x7d, U extends "
       ++ "string | bigint | number | boolean | symbol>(o: T): Readonly<T>",
     "freeze<T>(o: T): Readonly<T>", "preventExtensions<T>(o: T): T", "isSealed(o: any): boolean",
     "isFrozen(o: any): boolean", "isExtensible(o: any): boolean", "keys(o: object): string[]",
     "assign<T extends \x7b\x7d, U>(target: T, source: U): T & U",
     "assign<T extends \x7b\x7d, U, V>(target: T, source1: U, source2: V): T & U & V",
     "assign(target: object, ...sources: any[]): any", "is(value1: any, value2: any): boolean",
     "setPrototypeOf(o: any, proto: object | null): any",
     "values<T>(o: \x7b [s: string]: T \x7d | ArrayLike<T>): T[]", "values(o: \x7b\x7d): any[]",
     "entries<T>(o: \x7b [s: string]: T \x7d | ArrayLike<T>): [string, T][]",
     "entries(o: \x7b\x7d): [string, any][]",
     "fromEntries<T = any>(entries: Iterable<readonly [PropertyKey, T]>): \x7b [k: string]: T \x7d",
     "fromEntries(entries: Iterable<readonly any[]>): any",
     "hasOwn(o: object, v: PropertyKey): boolean",
     "getOwnPropertyDescriptors<T>(o: T): any"],
   .value "Object" "ObjectConstructor",
   .interface "Function" ""
    ["apply(this: Function, thisArg: any, argArray?: any): any",
     "call(this: Function, thisArg: any, ...argArray: any[]): any",
     "bind(this: Function, thisArg: any, ...argArray: any[]): any", "toString(): string",
     "prototype: any", "readonly length: number", "arguments: any", "caller: Function",
     "readonly name: string"],
   .interface "FunctionConstructor" ""
    ["new (...args: string[]): Function", "(...args: string[]): Function",
     "readonly prototype: Function"],
   .value "Function" "FunctionConstructor", .interface "CallableFunction" " extends Function" [],
   .interface "NewableFunction" " extends Function" [],
   .interface "IArguments" "" ["[index: number]: any", "length: number", "callee: Function"],
   .interface "JSON" ""
    ["parse(text: string, reviver?: (this: any, key: string, value: any) => any): any",
     "stringify(value: any, replacer?: (this: any, key: string, value: any) => any, space?: "
       ++ "string | number): string",
     "stringify(value: any, replacer?: (number | string)[] | null, space?: string | number): string",
     "readonly [Symbol.toStringTag]: string"],
   .value "JSON" "JSON", .function "eval" "(x: string): any",
   .function "structuredClone" "<T = any>(value: T, options?: StructuredSerializeOptions): T"]

/-- The declarations of one kind of failure. -/
def failure (name : String) (members : List String) : List Piece :=
  let own := ["message?: string", "message?: string, options?: ErrorOptions"]
  [.interface name "" members,
   .interface (name ++ "Constructor") (if name == "Error" then "" else " extends ErrorConstructor")
    ((own.flatMap fun shape => ["new (" ++ shape ++ "): " ++ name, "(" ++ shape ++ "): " ++ name])
      ++ ["readonly prototype: " ++ name]
      ++ (if name == "Error" then
            ["captureStackTrace(targetObject: object, constructorOpt?: Function): void",
             "stackTraceLimit: number"] else [])),
   .value name (name ++ "Constructor")]

/-- The declarations about failures. -/
def failures : List Piece :=
  [.interface "ErrorOptions" "" ["cause?: unknown"]]
  ++ failure "Error" ["name: string", "message: string", "stack?: string", "cause?: unknown"]
  ++ (["EvalError", "RangeError", "ReferenceError", "SyntaxError", "TypeError", "URIError"].flatMap
    fun name => failure name ["name: string", "message: string", "stack?: string", "cause?: unknown"])
  ++ [.interface "AggregateError" " extends Error" ["errors: any[]"],
      .interface "AggregateErrorConstructor" ""
        ["new (errors: Iterable<any>, message?: string, options?: ErrorOptions): AggregateError",
         "(errors: Iterable<any>, message?: string, options?: ErrorOptions): AggregateError",
         "readonly prototype: AggregateError"],
      .value "AggregateError" "AggregateErrorConstructor"]

/-- The declarations about promises. -/
def promises : List Piece :=
  let fulfilled := "((value: T) => TResult1 | PromiseLike<TResult1>) | null | undefined"
  let rejected (result : String) : String :=
    "((reason: any) => " ++ result ++ " | PromiseLike<" ++ result ++ ">) | null | undefined"
  let andThen (name : String) : String :=
    "then<TResult1 = T, TResult2 = never>(onfulfilled?: " ++ fulfilled ++ ", onrejected?: "
      ++ rejected "TResult2" ++ "): " ++ name ++ "<TResult1 | TResult2>"
  [.interface "PromiseLike" "<T>" [andThen "PromiseLike"],
   .interface "Promise" "<T>"
    [andThen "Promise",
     "catch<TResult = never>(onrejected?: " ++ rejected "TResult" ++ "): Promise<T | TResult>",
     "finally(onfinally?: (() => void) | null | undefined): Promise<T>",
     "readonly [Symbol.toStringTag]: string"],
   .interface "PromiseFulfilledResult" "<T>" ["status: \"fulfilled\"", "value: T"],
   .interface "PromiseRejectedResult" "" ["status: \"rejected\"", "reason: any"],
   .synonym "PromiseSettledResult" "<T>" "PromiseFulfilledResult<T> | PromiseRejectedResult",
   .interface "PromiseConstructor" ""
    ["readonly prototype: Promise<any>",
     "new <T>(executor: (resolve: (value: T | PromiseLike<T>) => void, reject: (reason?: any) "
       ++ "=> void) => void): Promise<T>",
     "all<T>(values: Iterable<T | PromiseLike<T>>): Promise<Awaited<T>[]>",
     "all<T extends readonly unknown[] | []>(values: T): Promise<\x7b -readonly [P in keyof "
       ++ "T]: Awaited<T[P]> \x7d>",
     "race<T>(values: Iterable<T | PromiseLike<T>>): Promise<Awaited<T>>",
     "race<T extends readonly unknown[] | []>(values: T): Promise<Awaited<T[number]>>",
     "reject<T = never>(reason?: any): Promise<T>", "resolve(): Promise<void>",
     "resolve<T>(value: T): Promise<Awaited<T>>",
     "resolve<T>(value: T | PromiseLike<T>): Promise<Awaited<T>>",
     "allSettled<T extends readonly unknown[] | []>(values: T): Promise<\x7b -readonly [P in "
       ++ "keyof T]: PromiseSettledResult<Awaited<T[P]>> \x7d>",
     "allSettled<T>(values: Iterable<T | PromiseLike<T>>): Promise<PromiseSettledResult<Awaited<T>>[]>",
     "any<T extends readonly unknown[] | []>(values: T): Promise<Awaited<T[number]>>",
     "any<T>(values: Iterable<T | PromiseLike<T>>): Promise<Awaited<T>>"],
   .value "Promise" "PromiseConstructor"]

/-- The types that are made from others by a rule. -/
def rules : List Piece :=
  [.synonym "Partial" "<T>" "\x7b [P in keyof T]?: T[P] \x7d",
   .synonym "Required" "<T>" "\x7b [P in keyof T]-?: T[P] \x7d",
   .synonym "Readonly" "<T>" "\x7b readonly [P in keyof T]: T[P] \x7d",
   .synonym "Pick" "<T, K extends keyof T>" "\x7b [P in K]: T[P] \x7d",
   .synonym "Record" "<K extends keyof any, T>" "\x7b [P in K]: T \x7d",
   .synonym "Exclude" "<T, U>" "T extends U ? never : T",
   .synonym "Extract" "<T, U>" "T extends U ? T : never",
   .synonym "Omit" "<T, K extends keyof any>" "\x7b [P in Exclude<keyof T, K>]: T[P] \x7d",
   .synonym "NonNullable" "<T>" "T & \x7b\x7d",
   .synonym "Parameters" "<T extends (...args: any) => any>"
     "T extends (...args: infer P) => any ? P : never",
   .synonym "ConstructorParameters" "<T extends abstract new (...args: any) => any>"
     "T extends abstract new (...args: infer P) => any ? P : never",
   .synonym "ReturnType" "<T extends (...args: any) => any>"
     "T extends (...args: any) => infer R ? R : any",
   .synonym "InstanceType" "<T extends abstract new (...args: any) => any>"
     "T extends abstract new (...args: any) => infer R ? R : any",
   .synonym "WeakKey" "" "object | symbol",
   .synonym "ClassDecorator" "" "(target: Function) => any",
   .synonym "PropertyDecorator" "" "(target: Object, propertyKey: string | symbol) => void"]

end Turnstile.Source.Standard
