import Turnstile.Source.Standard.Piece

/-! # Standard texts and patterns -/

namespace Turnstile.Source.Standard

/-- The declarations about texts and the patterns for them. -/
def texts : List Piece :=
  [.interface "String" ""
    ["toString(): string", "charAt(pos: number): string", "charCodeAt(index: number): number",
     "concat(...strings: string[]): string",
     "indexOf(searchString: string, position?: number): number",
     "lastIndexOf(searchString: string, position?: number): number",
     "localeCompare(that: string, locales?: string | string[], options?: Intl.CollatorOptions): number",
     "match(regexp: string | RegExp): RegExpMatchArray | null",
     "replace(searchValue: string | RegExp, replaceValue: string): string",
     "replace(searchValue: string | RegExp, replacer: (substring: string, ...args: any[]) => "
       ++ "string): string",
     "search(regexp: string | RegExp): number", "slice(start?: number, end?: number): string",
     "split(separator: string | RegExp, limit?: number): string[]",
     "substring(start: number, end?: number): string", "toLowerCase(): string",
     "toLocaleLowerCase(locales?: string | string[]): string", "toUpperCase(): string",
     "toLocaleUpperCase(locales?: string | string[]): string", "trim(): string",
     "readonly length: number", "substr(from: number, length?: number): string", "valueOf(): string",
     "readonly [index: number]: string", "codePointAt(pos: number): number | undefined",
     "includes(searchString: string, position?: number): boolean",
     "endsWith(searchString: string, endPosition?: number): boolean",
     "normalize(form?: string): string", "repeat(count: number): string",
     "startsWith(searchString: string, position?: number): boolean",
     "anchor(name: string): string", "big(): string", "link(url: string): string",
     "[Symbol.iterator](): StringIterator<string>",
     "padStart(maxLength: number, fillString?: string): string",
     "padEnd(maxLength: number, fillString?: string): string", "trimEnd(): string",
     "trimStart(): string", "trimLeft(): string", "trimRight(): string",
     "matchAll(regexp: RegExp): RegExpStringIterator<RegExpExecArray>",
     "replaceAll(searchValue: string | RegExp, replaceValue: string): string",
     "replaceAll(searchValue: string | RegExp, replacer: (substring: string, ...args: any[]) "
       ++ "=> string): string",
     "at(index: number): string | undefined"],
   .interface "StringConstructor" ""
    ["new (value?: any): String", "(value?: any): string", "readonly prototype: String",
     "fromCharCode(...codes: number[]): string", "fromCodePoint(...codePoints: number[]): string",
     "raw(template: \x7b raw: readonly string[] | ArrayLike<string> \x7d, ...substitutions: "
       ++ "any[]): string"],
   .value "String" "StringConstructor",
   .interface "TemplateStringsArray" " extends ReadonlyArray<string>"
     ["readonly raw: readonly string[]"],
   .interface "RegExpMatchArray" " extends Array<string>"
    ["index?: number", "input?: string", "0: string", "groups?: \x7b [key: string]: string \x7d"],
   .interface "RegExpExecArray" " extends Array<string>"
    ["index: number", "input: string", "0: string", "groups?: \x7b [key: string]: string \x7d"],
   .interface "RegExp" ""
    ["exec(string: string): RegExpExecArray | null", "test(string: string): boolean",
     "readonly source: string", "readonly global: boolean", "readonly ignoreCase: boolean",
     "readonly multiline: boolean", "lastIndex: number",
     "compile(pattern: string, flags?: string): this", "readonly flags: string",
     "readonly sticky: boolean", "readonly unicode: boolean", "readonly dotAll: boolean",
     "readonly hasIndices: boolean", "toString(): string"],
   .interface "RegExpConstructor" ""
    ["new (pattern: RegExp | string): RegExp", "new (pattern: string, flags?: string): RegExp",
     "new (pattern: RegExp | string, flags?: string): RegExp", "(pattern: RegExp | string): RegExp",
     "(pattern: string, flags?: string): RegExp",
     "(pattern: RegExp | string, flags?: string): RegExp", "readonly prototype: RegExp"],
   .value "RegExp" "RegExpConstructor",
   .function "parseInt" "(string: string, radix?: number): number",
   .function "parseFloat" "(string: string): number",
   .function "encodeURIComponent" "(uriComponent: string | number | boolean): string",
   .function "decodeURIComponent" "(encodedURIComponent: string): string",
   .function "encodeURI" "(uri: string): string", .function "decodeURI" "(encodedURI: string): string",
   .function "escape" "(string: string): string", .function "unescape" "(string: string): string"]

end Turnstile.Source.Standard
