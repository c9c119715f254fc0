import Turnstile.Source.Standard.Piece

/-! # What hosts bring along

* **`consoles`** and the timers are there for every host, as far as they go, and **`processes`** for
  servers.
* **`serverBoth`**, **`serverTypes`** and **`serverValues`** are further names of a host for
  servers, **`browserBoth`**, **`browserTypes`** and **`browserValues`** those of a browser;
  **`languageTypes`** and **`languageValues`** are those of the language of which no members are
  declared here. -/

namespace Turnstile.Source.Standard

/-- The words in a line, between blanks. -/
def wordsOf (line : String) : List Text :=
  (Text.split (Text.unit ' ') (Text.ofString line)).filter fun word => !word.isEmpty

/-- The declarations about the console and the timers. -/
def consoles : List Piece :=
  let lines := ["debug", "error", "info", "log", "trace", "warn", "group", "groupCollapsed", "dirxml"]
  [.interface "Console" ""
    ((lines.map fun name => name ++ "(...data: any[]): void")
      ++ ["assert(condition?: boolean, ...data: any[]): void", "clear(): void",
          "count(label?: string): void", "countReset(label?: string): void",
          "dir(item?: any, options?: any): void", "groupEnd(): void",
          "table(tabularData?: any, properties?: string[]): void", "time(label?: string): void",
          "timeEnd(label?: string): void", "timeLog(label?: string, ...data: any[]): void"]),
   .value "console" "Console",
   .function "clearTimeout" "(id: any): void", .function "clearInterval" "(id: any): void",
   .function "queueMicrotask" "(callback: () => void): void", .function "atob" "(data: string): string",
   .function "btoa" "(data: string): string"]

/-- The declarations about the process of a server. -/
def processes : List Piece :=
  [.interface "ProcessEnv" "" ["[key: string]: string | undefined"],
   .interface "Process" ""
    ["argv: string[]", "argv0: string", "execArgv: string[]", "execPath: string",
     "abort(): never", "chdir(directory: string): void", "cwd(): string", "env: ProcessEnv",
     "exit(code?: number | string | null | undefined): never",
     "exitCode?: number | string | null | undefined",
     "kill(pid: number, signal?: string | number): true", "readonly pid: number",
     "readonly ppid: number", "title: string", "readonly platform: string", "readonly arch: string",
     "uptime(): number", "version: string"],
   .value "process" "Process",
   .value "__dirname" "string", .value "__filename" "string"]

/-- The names of types of the language of which no members are declared here. -/
def languageTypes : List Text :=
  wordsOf "Atomics AsyncDisposable Awaited BigIntToLocaleStringOptions Capitalize ConcatArray"
    ++ wordsOf "ClassAccessorDecoratorContext ClassAccessorDecoratorResult"
    ++ wordsOf "ClassAccessorDecoratorTarget ClassDecoratorContext ClassFieldDecoratorContext"
    ++ wordsOf "ClassGetterDecoratorContext ClassMemberDecoratorContext ClassMethodDecoratorContext"
    ++ wordsOf "ClassSetterDecoratorContext DecoratorContext DecoratorMetadata"
    ++ wordsOf "DecoratorMetadataObject Disposable FinalizationRegistry"
    ++ wordsOf "FinalizationRegistryConstructor FlatArray ImportAssertions ImportAttributes"
    ++ wordsOf "ImportCallOptions ImportMeta Intl Lowercase MethodDecorator NoInfer"
    ++ wordsOf "OmitThisParameter ParameterDecorator PromiseConstructorLike PropertyDescriptor Proxy"
    ++ wordsOf "ProxyConstructor ProxyHandler Reflect SharedArrayBuffer SuppressedError"
    ++ wordsOf "ThisParameterType ThisType TypedPropertyDescriptor Uncapitalize Uppercase WeakKeyTypes"
    ++ wordsOf "ArrayBufferTypes BuiltinIteratorReturn AsyncGeneratorFunction"
    ++ wordsOf "AsyncGeneratorFunctionConstructor GeneratorFunction GeneratorFunctionConstructor"
    ++ wordsOf "StructuredSerializeOptions CallableFunction"

/-- The names of values of the language of which no members are declared here. -/
def languageValues : List Text :=
  wordsOf "Atomics FinalizationRegistry Intl Proxy Reflect"

/-- The names that the host for servers brings along, as types and as values. -/
def serverBoth : List Text :=
  wordsOf "AbortController AbortSignal Blob BroadcastChannel Buffer ByteLengthQueuingStrategy"
    ++ wordsOf "CompressionStream CountQueuingStrategy Crypto CryptoKey CustomEvent DOMException"
    ++ wordsOf "DecompressionStream Event EventSource EventTarget File FormData Headers MessageChannel"
    ++ wordsOf "MessageEvent MessagePort Performance PerformanceEntry PerformanceMark"
    ++ wordsOf "PerformanceMeasure PerformanceObserver PerformanceObserverEntryList"
    ++ wordsOf "PerformanceResourceTiming ReadableByteStreamController ReadableStream"
    ++ wordsOf "ReadableStreamBYOBReader ReadableStreamBYOBRequest"
    ++ wordsOf "ReadableStreamDefaultController ReadableStreamDefaultReader Request Response"
    ++ wordsOf "SubtleCrypto TextDecoder TextDecoderStream TextEncoder TextEncoderStream"
    ++ wordsOf "TransformStream TransformStreamDefaultController URL URLSearchParams WebSocket"
    ++ wordsOf "WritableStream WritableStreamDefaultController WritableStreamDefaultWriter"

/-- The names of further types that the host for servers brings along. -/
def serverTypes : List Text :=
  wordsOf "BufferConstructor BufferEncoding NodeJS NodeModule NodeRequire RequestInit RequestInfo"
    ++ wordsOf "ResponseInit HeadersInit EventListenerOptions AddEventListenerOptions EventInit"
    ++ wordsOf "EventListener EventListenerObject WithImplicitCoercion RelativeIndexable Gc"
    ++ wordsOf "QueuingStrategy QueuingStrategyInit StructuredSerializeOptions"

/-- The names of further values that the host for servers brings along. -/
def serverValues : List Text :=
  wordsOf "clearImmediate crypto exports fetch gc global module navigator performance require"
    ++ wordsOf "setImmediate setInterval setTimeout"

/-- The names that a browser brings along, as types and as values. -/
def browserBoth : List Text :=
  serverBoth.filter (fun name => name != ("Buffer" : Text))
    ++ wordsOf "Animation Attr Audio AudioContext BeforeUnloadEvent CSSStyleDeclaration Cache"
    ++ wordsOf "CanvasRenderingContext2D CharacterData ClipboardEvent Comment DOMParser DOMRect"
    ++ wordsOf "DataTransfer Document DocumentFragment DragEvent Element ErrorEvent FileList FileReader"
    ++ wordsOf "FocusEvent HTMLAnchorElement HTMLBodyElement HTMLButtonElement HTMLCanvasElement"
    ++ wordsOf "HTMLCollection HTMLDivElement HTMLDocument HTMLElement HTMLFormElement HTMLHeadElement"
    ++ wordsOf "HTMLImageElement HTMLInputElement HTMLLabelElement HTMLLinkElement HTMLOptionElement"
    ++ wordsOf "HTMLScriptElement HTMLSelectElement HTMLSpanElement HTMLTableElement"
    ++ wordsOf "HTMLTextAreaElement HTMLVideoElement History IDBDatabase Image ImageData InputEvent"
    ++ wordsOf "IntersectionObserver KeyboardEvent Location MediaStream MouseEvent MutationObserver"
    ++ wordsOf "MutationRecord Navigator Node NodeList Notification Option PointerEvent Range"
    ++ wordsOf "ResizeObserver SVGElement Screen ServiceWorker ShadowRoot Storage StorageEvent Text"
    ++ wordsOf "TouchEvent UIEvent WheelEvent Window Worker XMLHttpRequest XMLSerializer"

/-- The names of further types that a browser brings along. -/
def browserTypes : List Text :=
  wordsOf "RequestInit RequestInfo ResponseInit HeadersInit BodyInit BufferSource BlobPart EventInit"
    ++ wordsOf "EventListener EventListenerObject EventListenerOptions AddEventListenerOptions"
    ++ wordsOf
      "EventListenerOrEventListenerObject FrameRequestCallback GlobalEventHandlers Transferable"
    ++ wordsOf "HTMLElementTagNameMap ElementTagNameMap NodeListOf HTMLCollectionOf TimerHandler"
    ++ wordsOf "ParentNode ChildNode WindowOrWorkerGlobalScope StructuredSerializeOptions"

/-- The names of further values that a browser brings along. -/
def browserValues : List Text :=
  wordsOf "addEventListener alert blur cancelAnimationFrame close closed confirm crypto"
    ++ wordsOf "customElements dispatchEvent document event fetch focus frames getComputedStyle history"
    ++ wordsOf "indexedDB innerHeight innerWidth length localStorage location matchMedia name navigator"
    ++ wordsOf "onload open opener origin outerHeight outerWidth parent performance postMessage print"
    ++ wordsOf "prompt removeEventListener requestAnimationFrame screen screenX screenY scroll scrollBy"
    ++ wordsOf "scrollTo self sessionStorage setInterval setTimeout status stop top window"

end Turnstile.Source.Standard
