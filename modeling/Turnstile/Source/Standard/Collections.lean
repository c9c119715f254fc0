import Turnstile.Source.Standard.Piece

/-! # Standard arrays, maps, sets and what they are gone through by -/

namespace Turnstile.Source.Standard

/-- A function of an element, its place and the whole array, as it is written. -/
def elementTest (whole result : String) : String :=
  "(value: T, index: number, " ++ whole ++ ") => " ++ result

/-- The members that arrays have whether or not they can be changed; `whole` is how the array is
handed to a function. -/
def arrayReaders (whole : String) : List String :=
  let array := "array: " ++ whole
  let obj := "obj: " ++ whole
  ["toString(): string", "toLocaleString(): string", "join(separator?: string): string",
   "concat(...items: ConcatArray<T>[]): T[]", "concat(...items: (T | ConcatArray<T>)[]): T[]",
   "slice(start?: number, end?: number): T[]",
   "indexOf(searchElement: T, fromIndex?: number): number",
   "lastIndexOf(searchElement: T, fromIndex?: number): number",
   "every<S extends T>(predicate: " ++ elementTest array "value is S" ++ ", thisArg?: any): this is "
     ++ (if whole == "T[]" then "S[]" else "readonly S[]"),
   "every(predicate: " ++ elementTest array "unknown" ++ ", thisArg?: any): boolean",
   "some(predicate: " ++ elementTest array "unknown" ++ ", thisArg?: any): boolean",
   "forEach(callbackfn: " ++ elementTest array "void" ++ ", thisArg?: any): void",
   "map<U>(callbackfn: " ++ elementTest array "U" ++ ", thisArg?: any): U[]",
   "filter<S extends T>(predicate: " ++ elementTest array "value is S" ++ ", thisArg?: any): S[]",
   "filter(predicate: " ++ elementTest array "unknown" ++ ", thisArg?: any): T[]",
   "find<S extends T>(predicate: " ++ elementTest obj "value is S" ++ ", thisArg?: any): S | undefined",
   "find(predicate: " ++ elementTest obj "unknown" ++ ", thisArg?: any): T | undefined",
   "findIndex(predicate: " ++ elementTest obj "unknown" ++ ", thisArg?: any): number",
   "entries(): ArrayIterator<[number, T]>", "keys(): ArrayIterator<number>",
   "values(): ArrayIterator<T>", "[Symbol.iterator](): ArrayIterator<T>",
   "includes(searchElement: T, fromIndex?: number): boolean",
   "flatMap<U, This = undefined>(callback: (this: This, value: T, index: number, array: T[]) "
     ++ "=> U | ReadonlyArray<U>, thisArg?: This): U[]",
   "flat<A, D extends number = 1>(this: A, depth?: D): FlatArray<A, D>[]",
   "at(index: number): T | undefined"]
  ++ (["reduce", "reduceRight"].flatMap fun name =>
    let step (kind : String) : String :=
      "(callbackfn: (previousValue: " ++ kind ++ ", currentValue: T, currentIndex: number, " ++ array
        ++ ") => " ++ kind
    [name ++ step "T" ++ "): T", name ++ step "T" ++ ", initialValue: T): T",
     name ++ "<U>" ++ step "U" ++ ", initialValue: U): U"])

/-- The declarations about arrays and other sequences. -/
def sequences : List Piece :=
  [.interface "ReadonlyArray" "<T>"
    (["readonly length: number", "readonly [n: number]: T"] ++ arrayReaders "readonly T[]"),
   .interface "ConcatArray" "<T>"
    ["readonly length: number", "readonly [n: number]: T", "join(separator?: string): string",
     "slice(start?: number, end?: number): T[]"],
   .interface "Array" "<T>"
    (["length: number", "pop(): T | undefined", "push(...items: T[]): number", "reverse(): T[]",
      "shift(): T | undefined", "sort(compareFn?: (a: T, b: T) => number): this",
      "splice(start: number, deleteCount?: number): T[]",
      "splice(start: number, deleteCount: number, ...items: T[]): T[]",
      "unshift(...items: T[]): number", "fill(value: T, start?: number, end?: number): this",
      "copyWithin(target: number, start: number, end?: number): this", "[n: number]: T"]
      ++ arrayReaders "T[]"),
   .interface "ArrayConstructor" ""
    ["new (arrayLength?: number): any[]", "new <T>(arrayLength: number): T[]",
     "new <T>(...items: T[]): T[]", "(arrayLength?: number): any[]", "<T>(arrayLength: number): T[]",
     "<T>(...items: T[]): T[]", "isArray(arg: any): arg is any[]", "readonly prototype: any[]",
     "from<T>(arrayLike: ArrayLike<T>): T[]",
     "from<T, U>(arrayLike: ArrayLike<T>, mapfn: (v: T, k: number) => U, thisArg?: any): U[]",
     "from<T>(iterable: Iterable<T> | ArrayLike<T>): T[]",
     "from<T, U>(iterable: Iterable<T> | ArrayLike<T>, mapfn: (v: T, k: number) => U, "
       ++ "thisArg?: any): U[]",
     "of<T>(...items: T[]): T[]"],
   .value "Array" "ArrayConstructor",
   .interface "ArrayLike" "<T>" ["readonly length: number", "readonly [n: number]: T"]]

/-- The declarations about going through elements. -/
def iterations : List Piece :=
  let next := "next(...[value]: [] | [TNext]): IteratorResult<T, TReturn>"
  let ends := ["return?(value?: TReturn): IteratorResult<T, TReturn>",
    "throw?(e?: any): IteratorResult<T, TReturn>"]
  let late := ["next(...[value]: [] | [TNext]): Promise<IteratorResult<T, TReturn>>",
    "return?(value?: TReturn | PromiseLike<TReturn>): Promise<IteratorResult<T, TReturn>>",
    "throw?(e?: any): Promise<IteratorResult<T, TReturn>>"]
  let named (name : String) : Piece :=
    .interface name "<T> extends IterableIterator<T, undefined, unknown>"
      ["[Symbol.iterator](): " ++ name ++ "<T>"]
  [.interface "IteratorYieldResult" "<TYield>" ["done?: false", "value: TYield"],
   .interface "IteratorReturnResult" "<TReturn>" ["done: true", "value: TReturn"],
   .synonym "IteratorResult" "<T, TReturn = any>"
     "IteratorYieldResult<T> | IteratorReturnResult<TReturn>",
   .interface "Iterator" "<T, TReturn = any, TNext = any>" (next :: ends),
   .interface "Iterable" "<T, TReturn = any, TNext = any>"
    ["[Symbol.iterator](): Iterator<T, TReturn, TNext>"],
   .interface "IterableIterator" "<T, TReturn = any, TNext = any> extends Iterator<T, TReturn, TNext>"
    ["[Symbol.iterator](): IterableIterator<T, TReturn, TNext>"],
   .interface "IteratorObject"
     "<T, TReturn = unknown, TNext = unknown> extends Iterator<T, TReturn, TNext>"
    ["[Symbol.iterator](): IteratorObject<T, TReturn, TNext>"],
   .interface "Generator"
     "<T = unknown, TReturn = any, TNext = any> extends IteratorObject<T, TReturn, TNext>"
    [next, "return(value: TReturn): IteratorResult<T, TReturn>",
     "throw(e: any): IteratorResult<T, TReturn>",
     "[Symbol.iterator](): Generator<T, TReturn, TNext>"],
   named "ArrayIterator", named "StringIterator", named "MapIterator", named "SetIterator",
   named "RegExpStringIterator",
   .interface "AsyncIterator" "<T, TReturn = any, TNext = any>" late,
   .interface "AsyncIterable" "<T, TReturn = any, TNext = any>"
    ["[Symbol.asyncIterator](): AsyncIterator<T, TReturn, TNext>"],
   .interface "AsyncIterableIterator"
     "<T, TReturn = any, TNext = any> extends AsyncIterator<T, TReturn, TNext>"
    ["[Symbol.asyncIterator](): AsyncIterableIterator<T, TReturn, TNext>"],
   .interface "AsyncIteratorObject"
     "<T, TReturn = unknown, TNext = unknown> extends AsyncIterator<T, TReturn, TNext>"
    ["[Symbol.asyncIterator](): AsyncIteratorObject<T, TReturn, TNext>"],
   .interface "AsyncGenerator"
     "<T = unknown, TReturn = any, TNext = any> extends AsyncIteratorObject<T, TReturn, TNext>"
    ["next(...[value]: [] | [TNext]): Promise<IteratorResult<T, TReturn>>",
     "return(value: TReturn | PromiseLike<TReturn>): Promise<IteratorResult<T, TReturn>>",
     "throw(e: any): Promise<IteratorResult<T, TReturn>>",
     "[Symbol.asyncIterator](): AsyncGenerator<T, TReturn, TNext>"]]

/-- The declarations about maps and sets. -/
def tables : List Piece :=
  [.interface "Map" "<K, V>"
    ["clear(): void", "delete(key: K): boolean",
     "forEach(callbackfn: (value: V, key: K, map: Map<K, V>) => void, thisArg?: any): void",
     "get(key: K): V | undefined", "has(key: K): boolean", "set(key: K, value: V): this",
     "readonly size: number", "[Symbol.iterator](): MapIterator<[K, V]>",
     "entries(): MapIterator<[K, V]>", "keys(): MapIterator<K>", "values(): MapIterator<V>",
     "readonly [Symbol.toStringTag]: string"],
   .interface "ReadonlyMap" "<K, V>"
    ["forEach(callbackfn: (value: V, key: K, map: ReadonlyMap<K, V>) => void, thisArg?: any): void",
     "get(key: K): V | undefined", "has(key: K): boolean", "readonly size: number",
     "[Symbol.iterator](): MapIterator<[K, V]>", "entries(): MapIterator<[K, V]>",
     "keys(): MapIterator<K>", "values(): MapIterator<V>"],
   .interface "MapConstructor" ""
    ["new (): Map<any, any>",
     "new <K, V>(entries?: readonly (readonly [K, V])[] | null): Map<K, V>",
     "new <K, V>(iterable?: Iterable<readonly [K, V]> | null): Map<K, V>",
     "readonly prototype: Map<any, any>"],
   .value "Map" "MapConstructor",
   .interface "Set" "<T>"
    ["add(value: T): this", "clear(): void", "delete(value: T): boolean",
     "forEach(callbackfn: (value: T, value2: T, set: Set<T>) => void, thisArg?: any): void",
     "has(value: T): boolean", "readonly size: number", "[Symbol.iterator](): SetIterator<T>",
     "entries(): SetIterator<[T, T]>", "keys(): SetIterator<T>", "values(): SetIterator<T>",
     "readonly [Symbol.toStringTag]: string"],
   .interface "ReadonlySet" "<T>"
    ["forEach(callbackfn: (value: T, value2: T, set: ReadonlySet<T>) => void, thisArg?: any): void",
     "has(value: T): boolean", "readonly size: number", "[Symbol.iterator](): SetIterator<T>",
     "entries(): SetIterator<[T, T]>", "keys(): SetIterator<T>", "values(): SetIterator<T>"],
   .interface "SetConstructor" ""
    ["new <T = any>(values?: readonly T[] | null): Set<T>",
     "new <T>(iterable?: Iterable<T> | null): Set<T>", "readonly prototype: Set<any>"],
   .value "Set" "SetConstructor",
   .interface "WeakMap" "<K extends WeakKey, V>"
    ["delete(key: K): boolean", "get(key: K): V | undefined", "has(key: K): boolean",
     "set(key: K, value: V): this", "readonly [Symbol.toStringTag]: string"],
   .interface "WeakMapConstructor" ""
    ["new <K extends WeakKey = WeakKey, V = any>(entries?: readonly (readonly [K, V])[] | "
       ++ "null): WeakMap<K, V>",
     "readonly prototype: WeakMap<WeakKey, any>"],
   .value "WeakMap" "WeakMapConstructor",
   .interface "WeakSet" "<T extends WeakKey>"
    ["add(value: T): this", "delete(value: T): boolean", "has(value: T): boolean",
     "readonly [Symbol.toStringTag]: string"],
   .interface "WeakSetConstructor" ""
    ["new <T extends WeakKey = WeakKey>(values?: readonly T[] | null): WeakSet<T>",
     "readonly prototype: WeakSet<WeakKey>"],
   .value "WeakSet" "WeakSetConstructor",
   .interface "WeakRef" "<T extends WeakKey>"
    ["deref(): T | undefined", "readonly [Symbol.toStringTag]: \"WeakRef\""],
   .interface "WeakRefConstructor" ""
    ["readonly prototype: WeakRef<any>", "new <T extends WeakKey>(target: T): WeakRef<T>"],
   .value "WeakRef" "WeakRefConstructor"]

/-- The methods of a view that read or write a number of some width. -/
def viewMethods (name element : String) : List String :=
  let ending := if name == "Int8" || name == "Uint8" then "" else ", littleEndian?: boolean"
  ["get" ++ name ++ "(byteOffset: number" ++ ending ++ "): " ++ element,
   "set" ++ name ++ "(byteOffset: number, value: " ++ element ++ ending ++ "): void"]

/-- The declarations about blocks of bytes. -/
def buffers : List Piece :=
  let block (name : String) : List String :=
    ["readonly byteLength: number", "slice(begin?: number, end?: number): " ++ name,
     "readonly [Symbol.toStringTag]: \"" ++ name ++ "\""]
  [.interface "ArrayBuffer" "" (block "ArrayBuffer"),
   .interface "SharedArrayBuffer" "" (block "SharedArrayBuffer"),
   .synonym "ArrayBufferLike" "" "ArrayBuffer | SharedArrayBuffer",
   .interface "ArrayBufferConstructor" ""
    ["readonly prototype: ArrayBuffer", "new (byteLength: number): ArrayBuffer",
     "isView(arg: any): arg is ArrayBufferView"],
   .value "ArrayBuffer" "ArrayBufferConstructor",
   .interface "SharedArrayBufferConstructor" ""
    ["readonly prototype: SharedArrayBuffer", "new (byteLength: number): SharedArrayBuffer"],
   .value "SharedArrayBuffer" "SharedArrayBufferConstructor",
   .interface "ArrayBufferView" "<TArrayBuffer extends ArrayBufferLike = ArrayBufferLike>"
    ["readonly buffer: TArrayBuffer", "readonly byteLength: number", "readonly byteOffset: number"],
   .interface "DataView" "<TArrayBuffer extends ArrayBufferLike = ArrayBufferLike>"
    (["readonly buffer: TArrayBuffer", "readonly byteLength: number", "readonly byteOffset: number",
      "readonly [Symbol.toStringTag]: \"DataView\""]
      ++ (["Float32", "Float64", "Int8", "Int16", "Int32", "Uint8", "Uint16", "Uint32"].flatMap
        fun name => viewMethods name "number")
      ++ (["BigInt64", "BigUint64"].flatMap fun name => viewMethods name "bigint")),
   .interface "DataViewConstructor" ""
    ["readonly prototype: DataView<ArrayBufferLike>",
     "new <TArrayBuffer extends ArrayBufferLike>(buffer: TArrayBuffer, byteOffset?: number, "
       ++ "byteLength?: number): DataView<TArrayBuffer>"],
   .value "DataView" "DataViewConstructor"]
  ++ (["Int8Array", "Uint8Array", "Uint8ClampedArray", "Int16Array", "Uint16Array", "Int32Array",
       "Uint32Array", "Float32Array", "Float64Array"].flatMap fun name => Piece.numbers name "number")
  ++ (["BigInt64Array", "BigUint64Array"].flatMap fun name => Piece.numbers name "bigint")

end Turnstile.Source.Standard
