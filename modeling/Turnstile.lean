import Turnstile.CommandLine.Argument
import Turnstile.CommandLine.Invocation
import Turnstile.CommandLine.Run
import Turnstile.CommandLine.Usage
import Turnstile.FileTree
import Turnstile.Installation
import Turnstile.Installation.Builtin
import Turnstile.Installation.Module
import Turnstile.Installation.Sample.Endings
import Turnstile.Installation.Sample.Faulty
import Turnstile.Installation.Sample.Greeting
import Turnstile.Installation.Sample.Kinds
import Turnstile.Installation.Sample.Ordering
import Turnstile.Json
import Turnstile.Json.Lenient
import Turnstile.Library.Callable
import Turnstile.Library.Registry
import Turnstile.Library.Session
import Turnstile.Main
import Turnstile.Memory
import Turnstile.Memory.Operation
import Turnstile.Number
import Turnstile.Number.Numeral
import Turnstile.Number.Shortest
import Turnstile.Path
import Turnstile.Proofs.CommandLine.Accepted
import Turnstile.Proofs.CommandLine.Item
import Turnstile.Proofs.CommandLine.Leaks
import Turnstile.Proofs.CommandLine.NegativeNumbers
import Turnstile.Proofs.CommandLine.NumericKinds
import Turnstile.Proofs.CommandLine.Outcomes
import Turnstile.Proofs.CommandLine.PrintedBack
import Turnstile.Proofs.CommandLine.PrintedNumbers
import Turnstile.Proofs.CommandLine.PrintedText
import Turnstile.Proofs.CommandLine.ReadArguments
import Turnstile.Proofs.CommandLine.ReadValues
import Turnstile.Proofs.CommandLine.Reading
import Turnstile.Proofs.CommandLine.Refused
import Turnstile.Proofs.CommandLine.Repetitions
import Turnstile.Proofs.CommandLine.Reports
import Turnstile.Proofs.CommandLine.Steps
import Turnstile.Proofs.CommandLine.Turns
import Turnstile.Proofs.Json.Grammar
import Turnstile.Proofs.Json.Lexemes
import Turnstile.Proofs.Json.Rendering
import Turnstile.Proofs.Library.Builtin
import Turnstile.Proofs.Library.BuiltinCalls
import Turnstile.Proofs.Library.Lookup
import Turnstile.Proofs.Library.Session
import Turnstile.Proofs.Memory.Accounting
import Turnstile.Proofs.Memory.Allocation
import Turnstile.Proofs.Memory.Balance
import Turnstile.Proofs.Memory.CreatedText
import Turnstile.Proofs.Memory.Frame
import Turnstile.Proofs.Memory.History
import Turnstile.Proofs.Memory.Isolation
import Turnstile.Proofs.Memory.OwnedBlocks
import Turnstile.Proofs.Memory.Ownership
import Turnstile.Proofs.Memory.SingleRelease
import Turnstile.Proofs.Memory.StringLife
import Turnstile.Proofs.Memory.Transition
import Turnstile.Proofs.Number.Counting
import Turnstile.Proofs.Number.Integral
import Turnstile.Proofs.Number.MinusSign
import Turnstile.Proofs.Number.ReadBack
import Turnstile.Proofs.Number.Whole
import Turnstile.Proofs.Number.WholeText
import Turnstile.Proofs.Routine.Fibonacci
import Turnstile.Proofs.Routine.SquareSum
import Turnstile.Proofs.Routine.SquareSumLaws
import Turnstile.Proofs.Signature.Admission
import Turnstile.Proofs.Signature.Fitting
import Turnstile.Proofs.Signature.NumberArrays
import Turnstile.Proofs.Signature.Omission
import Turnstile.Proofs.Signature.RestParameters
import Turnstile.Proofs.Source.BasicTypes
import Turnstile.Proofs.Source.DeclaredFunctions
import Turnstile.Proofs.Source.DescribedNames
import Turnstile.Proofs.Source.DescribedSignatures
import Turnstile.Proofs.Source.ElementTypes
import Turnstile.Proofs.Source.HandedNames
import Turnstile.Proofs.Source.Lines
import Turnstile.Proofs.Source.PlainMeanings
import Turnstile.Proofs.Source.PlainSignatures
import Turnstile.Proofs.Source.PlainTypes
import Turnstile.Proofs.Source.PlainTypesRead
import Turnstile.Proofs.Source.Reading
import Turnstile.Proofs.Source.SignatureLines
import Turnstile.Proofs.Source.StandardTypes
import Turnstile.Proofs.Source.UnionOrder
import Turnstile.Proofs.Source.WrittenUndefined
import Turnstile.Proofs.Text.Bars
import Turnstile.Proofs.Text.Decimal
import Turnstile.Proofs.Text.Parts
import Turnstile.Proofs.Text.Repair
import Turnstile.Proofs.Text.Utf8
import Turnstile.Proofs.Value.PlainData
import Turnstile.Proofs.Value.ReadingOrder
import Turnstile.Proofs.Value.Settling
import Turnstile.Routine
import Turnstile.Routine.Fibonacci
import Turnstile.Routine.SquareSum
import Turnstile.Routine.Strings
import Turnstile.Settings
import Turnstile.Settings.Choice
import Turnstile.Settings.Pattern
import Turnstile.Signature
import Turnstile.Signature.Admission
import Turnstile.Source.Assigned
import Turnstile.Source.Call
import Turnstile.Source.Calls
import Turnstile.Source.Derived
import Turnstile.Source.Described
import Turnstile.Source.Faults
import Turnstile.Source.Flow
import Turnstile.Source.Inference
import Turnstile.Source.Members
import Turnstile.Source.Program
import Turnstile.Source.Reader
import Turnstile.Source.Reader.Classes
import Turnstile.Source.Reader.Expressions
import Turnstile.Source.Reader.Functions
import Turnstile.Source.Reader.Statements
import Turnstile.Source.Reader.Types
import Turnstile.Source.Relation
import Turnstile.Source.Resolve
import Turnstile.Source.Resolver
import Turnstile.Source.Scope
import Turnstile.Source.Shape
import Turnstile.Source.Standard
import Turnstile.Source.Standard.Collections
import Turnstile.Source.Standard.Hosts
import Turnstile.Source.Standard.Numbers
import Turnstile.Source.Standard.Objects
import Turnstile.Source.Standard.Piece
import Turnstile.Source.Standard.Texts
import Turnstile.Source.Substitute
import Turnstile.Source.Token
import Turnstile.Source.Tree
import Turnstile.Source.Type
import Turnstile.Source.Type.Order
import Turnstile.Source.Type.Union
import Turnstile.Source.Walk
import Turnstile.Source.Walker
import Turnstile.Source.Walker.Basic
import Turnstile.Source.Walker.Binding
import Turnstile.Source.Walker.Call
import Turnstile.Source.Walker.Class
import Turnstile.Source.Walker.Condition
import Turnstile.Source.Walker.Declaration
import Turnstile.Source.Walker.Expression
import Turnstile.Source.Walker.Fitting
import Turnstile.Source.Walker.Function
import Turnstile.Source.Walker.Member
import Turnstile.Source.Walker.Narrowing
import Turnstile.Source.Walker.Operation
import Turnstile.Source.Walker.Statement
import Turnstile.Text
import Turnstile.Text.Utf8
import Turnstile.Value
import Turnstile.Value.Display
import Turnstile.Value.ToJson
import Turnstile.Value.Vector
