import Turnstile.Source.Program
import Turnstile.Source.Standard.Collections
import Turnstile.Source.Standard.Hosts
import Turnstile.Source.Standard.Numbers
import Turnstile.Source.Standard.Objects
import Turnstile.Source.Standard.Texts

/-! # What is always there

* **`Standard.declarations`** are the declarations of the standard objects, read from their pieces;
  **`Standard.named`** are those under a name.
* **`Standard.isTypeName`** and **`Standard.isValueName`** know the names of which no more is known. -/

namespace Turnstile.Source.Standard

/-- What a piece that starts at an offset declares under its name. -/
def Piece.declarations (offset : Nat) (piece : Piece) : List Declaration :=
  let tokens := tokensOf true (Source.pieces ⟨offset, 1⟩ piece.text)
  SourceTree.declarations (Reader.statements tokens.length tokens) (Text.ofString piece.name)

/-- What pieces declare, by name. Each piece starts where the one before it ends, so no two names have
one offset. -/
def declarationsOf (offset : Nat) : List Piece → List (Text × Declaration)
  | [] => []
  | piece :: rest =>
    (piece.declarations offset).map (fun d => (Text.ofString piece.name, d))
      ++ declarationsOf (offset + piece.text.length) rest

/-- The pieces that declare what is always there. -/
def allPieces : List Piece :=
  objects ++ texts ++ numbers ++ sequences ++ iterations ++ tables ++ buffers ++ failures ++ promises
    ++ rules ++ consoles

/-- **The declarations that are always there**, by name. -/
def declarations : List (Text × Declaration) := declarationsOf 1 allPieces

/-- The declarations that a host for servers adds, by name. -/
def serverDeclarations : List (Text × Declaration) := declarationsOf 1000000 processes

/-- What is declared under a name. -/
def named (options : CheckOptions) (name : Text) : List Declaration :=
  let all := (declarations.filter (·.1 = name)).map (·.2)
  if all.isEmpty && options.hasServer then (serverDeclarations.filter (·.1 = name)).map (·.2) else all

/-- Whether a name stands for a type of which no members are known. -/
def isTypeName (options : CheckOptions) (name : Text) : Bool :=
  languageTypes.contains name
    || (options.hasServer && (serverBoth.contains name || serverTypes.contains name))
    || (options.hasBrowser && (browserBoth.contains name || browserTypes.contains name))

/-- Whether a name stands for a value of which nothing is known. -/
def isValueName (options : CheckOptions) (name : Text) : Bool :=
  languageValues.contains name
    || (options.hasServer && (serverBoth.contains name || serverValues.contains name))
    || (options.hasBrowser && (browserBoth.contains name || browserValues.contains name))

end Turnstile.Source.Standard
