import Turnstile.Text

/-! # Pieces of standard declarations

What is always there is declared in the same words in which a source declares things. A **piece** is
one such declaration.

* **`Piece.interface`** declares what the objects of a type have.
* **`Piece.numbers`** declares the arrays of numbers of a fixed kind, which all have the same
  members. -/

namespace Turnstile.Source.Standard

/-- A declaration as a text, and the name that it declares. -/
structure Piece where
  name : String
  text : Text

namespace Piece

/-- An interface by its name, what stands behind the name in its heading, and its members. -/
def interface (name heading : String) (members : List String) : Piece :=
  ⟨name, "interface " ++ Text.ofString name ++ Text.ofString heading ++ " \x7b "
    ++ Text.join "; " (members.map Text.ofString) ++ " \x7d"⟩

/-- A declared value by its name and its type. -/
def value (name type : String) : Piece :=
  ⟨name, "declare var " ++ Text.ofString name ++ ": " ++ Text.ofString type ++ ";"⟩

/-- A declared function by its name and all that stands behind it. -/
def function (name shape : String) : Piece :=
  ⟨name, "declare function " ++ Text.ofString name ++ Text.ofString shape ++ ";"⟩

/-- An alias of a type by its name, its type parameters and what it means. -/
def synonym (name formals type : String) : Piece :=
  ⟨name, "type " ++ Text.ofString name ++ Text.ofString formals ++ " = " ++ Text.ofString type ++ ";"⟩

/-- The members of an array of numbers of one kind, whose elements are of a type. -/
def numbersMembers (name element : String) : List String :=
  let own := name ++ "<TArrayBuffer>"
  let fresh := name ++ "<ArrayBuffer>"
  ["readonly BYTES_PER_ELEMENT: number", "readonly buffer: TArrayBuffer",
   "readonly byteLength: number", "readonly byteOffset: number", "readonly length: number",
   "at(index: number): " ++ element ++ " | undefined",
   "copyWithin(target: number, start: number, end?: number): this",
   "every(predicate: (value: " ++ element
     ++ ", index: number, array: this) => unknown, thisArg?: any): boolean",
   "fill(value: " ++ element ++ ", start?: number, end?: number): this",
   "filter(predicate: (value: " ++ element
     ++ ", index: number, array: this) => any, thisArg?: any): " ++ fresh,
   "find(predicate: (value: " ++ element ++ ", index: number, obj: this) => boolean, thisArg?: any): "
     ++ element ++ " | undefined",
   "findIndex(predicate: (value: " ++ element
     ++ ", index: number, obj: this) => boolean, thisArg?: any): number",
   "forEach(callbackfn: (value: " ++ element
     ++ ", index: number, array: this) => void, thisArg?: any): void",
   "includes(searchElement: " ++ element ++ ", fromIndex?: number): boolean",
   "indexOf(searchElement: " ++ element ++ ", fromIndex?: number): number",
   "join(separator?: string): string",
   "lastIndexOf(searchElement: " ++ element ++ ", fromIndex?: number): number",
   "map(callbackfn: (value: " ++ element ++ ", index: number, array: this) => " ++ element
     ++ ", thisArg?: any): " ++ fresh,
   "reduce(callbackfn: (previousValue: " ++ element ++ ", currentValue: " ++ element
     ++ ", currentIndex: number, array: this) => " ++ element ++ "): " ++ element,
   "reduce(callbackfn: (previousValue: " ++ element ++ ", currentValue: " ++ element
     ++ ", currentIndex: number, array: this) => " ++ element ++ ", initialValue: " ++ element ++ "): "
     ++ element,
   "reduce<U>(callbackfn: (previousValue: U, currentValue: " ++ element
     ++ ", currentIndex: number, array: this) => U, initialValue: U): U",
   "reverse(): this",
   "set(array: ArrayLike<" ++ element ++ ">, offset?: number): void",
   "slice(start?: number, end?: number): " ++ fresh,
   "some(predicate: (value: " ++ element
     ++ ", index: number, array: this) => unknown, thisArg?: any): boolean",
   "sort(compareFn?: (a: " ++ element ++ ", b: " ++ element ++ ") => number"
     ++ (if element == "bigint" then " | bigint" else "") ++ "): this",
   "subarray(begin?: number, end?: number): " ++ own,
   "toLocaleString(): string", "toString(): string", "valueOf(): this",
   "[index: number]: " ++ element,
   "[Symbol.iterator](): ArrayIterator<" ++ element ++ ">",
   "entries(): ArrayIterator<[number, " ++ element ++ "]>", "keys(): ArrayIterator<number>",
   "values(): ArrayIterator<" ++ element ++ ">", "readonly [Symbol.toStringTag]: \"" ++ name ++ "\""]

/-- The declarations of an array of numbers of one kind. -/
def numbers (name element : String) : List Piece :=
  let fresh := name ++ "<ArrayBuffer>"
  [interface name "<TArrayBuffer extends ArrayBufferLike = ArrayBufferLike>"
     (numbersMembers name element),
   interface (name ++ "Constructor") ""
     ["readonly prototype: " ++ name ++ "<ArrayBufferLike>",
      "new (length: number): " ++ fresh,
      "new (array: ArrayLike<" ++ element ++ ">): " ++ fresh,
      "new <TArrayBuffer extends ArrayBufferLike = ArrayBuffer>(buffer: TArrayBuffer, "
        ++ "byteOffset?: number, length?: number): "
        ++ name ++ "<TArrayBuffer>",
      "new (buffer: ArrayBuffer, byteOffset?: number, length?: number): " ++ fresh,
      "new (array: ArrayLike<" ++ element ++ "> | ArrayBuffer): " ++ fresh,
      "new (elements: Iterable<" ++ element ++ ">): " ++ fresh,
      "new (): " ++ fresh,
      "readonly BYTES_PER_ELEMENT: number",
      "of(...items: " ++ element ++ "[]): " ++ fresh,
      "from(arrayLike: ArrayLike<" ++ element ++ ">): " ++ fresh,
      "from<T>(arrayLike: ArrayLike<T>, mapfn: (v: T, k: number) => " ++ element
        ++ ", thisArg?: any): " ++ fresh,
      "from(elements: Iterable<" ++ element ++ ">): " ++ fresh,
      "from<T>(elements: Iterable<T>, mapfn?: (v: T, k: number) => " ++ element
        ++ ", thisArg?: any): " ++ fresh],
   value name (name ++ "Constructor")]

end Piece

end Turnstile.Source.Standard
