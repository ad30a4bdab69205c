import MessageAbi.AbiDocument
import MessageAbi.AbiType
import MessageAbi.Binary64
import MessageAbi.Bindings.Basic
import MessageAbi.Bindings.Code
import MessageAbi.Bindings.Identifier
import MessageAbi.Bindings.Native
import MessageAbi.Bindings.Typed
import MessageAbi.Category
import MessageAbi.Codec.Call
import MessageAbi.Codec.Decode
import MessageAbi.Codec.Encode
import MessageAbi.CommandLine.Arguments
import MessageAbi.CommandLine.Command
import MessageAbi.CommandLine.Files
import MessageAbi.CommandLine.Report
import MessageAbi.CommandLine.Run
import MessageAbi.Error
import MessageAbi.Example.Library
import MessageAbi.Int256
import MessageAbi.Json.Basic
import MessageAbi.Json.Reader
import MessageAbi.Json.Writer
import MessageAbi.JsonArguments
import MessageAbi.JsonCall
import MessageAbi.Keccak
import MessageAbi.Main
import MessageAbi.MessageSpec
import MessageAbi.Proofs.AbiType
import MessageAbi.Proofs.Codec.Trace
import MessageAbi.Proofs.Word
import MessageAbi.Proofs.Numeral
import MessageAbi.Proofs.List
import MessageAbi.Registry
import MessageAbi.Schema.Analysis
import MessageAbi.Schema.Basic
import MessageAbi.Schema.Builtin
import MessageAbi.Schema.Compiled
import MessageAbi.Schema.Document.Fault
import MessageAbi.Schema.Document.Shape
import MessageAbi.Schema.Document.Tree
import MessageAbi.Schema.Identifier
import MessageAbi.Schema.Read
import MessageAbi.Schema.TypeExpr
import MessageAbi.Selector
import MessageAbi.Text.Alphanumeric
import MessageAbi.Text.Blank
import MessageAbi.Text.CaseWords
import MessageAbi.Text.CharSet
import MessageAbi.Text.Hex
import MessageAbi.Text.IdentifierChar
import MessageAbi.Text.LetterCase
import MessageAbi.Text.Quoted
import MessageAbi.Text.Unprintable
import MessageAbi.Value
import MessageAbi.ValueAccess
import MessageAbi.Word
import MessageAbi.Yaml.Cursor
import MessageAbi.Yaml.Datum
import MessageAbi.Yaml.Node
import MessageAbi.Yaml.Property
import MessageAbi.Yaml.ScalarText
import MessageAbi.Yaml.Scanner
import MessageAbi.Yaml.Token
import MessageAbi.Yaml.Tree
import MessageAbi.Proofs.Typing
import MessageAbi.Proofs.Codec.Footprint
import MessageAbi.Proofs.Codec.Budget
import MessageAbi.Proofs.Codec.Layout
import MessageAbi.Proofs.Codec.RoundTrip
import MessageAbi.Proofs.Registry.Consistent
import MessageAbi.Proofs.Registry.PackUnpack
import MessageAbi.Proofs.Codec.WireFormat
import MessageAbi.Proofs.Schema.Analysis
import MessageAbi.Proofs.Schema.Compiled
import MessageAbi.Proofs.AbiDocument.Reader
import MessageAbi.Proofs.Bindings.Builder
import MessageAbi.Proofs.Bindings.Description
import MessageAbi.Proofs.JsonArguments.Reading
import MessageAbi.Proofs.JsonArguments.RoundTrip
import MessageAbi.Proofs.Schema.ParamTypes
import MessageAbi.Proofs.JsonCall
import MessageAbi.Proofs.Bindings.Native
import MessageAbi.Proofs.Bindings.Agreement
import MessageAbi.Proofs.Bindings.Dispatch
import MessageAbi.Proofs.Signature.Erasure
import MessageAbi.Proofs.Signature.Unambiguous
import MessageAbi.Proofs.Schema.Identifier
import MessageAbi.Proofs.Registry.Session
import MessageAbi.Proofs.Schema.Totality
import MessageAbi.Proofs.Text.CaseWords
import MessageAbi.Proofs.Bindings.Identifier
import MessageAbi.Proofs.Bindings.Clash
import MessageAbi.Proofs.Codec.Machine
import MessageAbi.Proofs.Codec.Safety
import MessageAbi.Proofs.Codec.Aliasing
import MessageAbi.Proofs.Codec.Acceptance
import MessageAbi.Proofs.Schema.StructOrder
import MessageAbi.Proofs.Codec.Canonical
import MessageAbi.Proofs.Codec.Extension
import MessageAbi.Proofs.JsonArguments.Forms
import MessageAbi.Proofs.Digits
import MessageAbi.Proofs.Hex
import MessageAbi.Proofs.JsonArguments.IntegerText
import MessageAbi.Proofs.Int256.Denotation
import MessageAbi.Proofs.Bindings.Lossless
import MessageAbi.Proofs.Registry.Order
import MessageAbi.Proofs.Schema.FirstViolation
import MessageAbi.Proofs.Schema.TypeExpr
import MessageAbi.Proofs.JsonArguments.Culprit
import MessageAbi.Proofs.Schema.DocumentShape
import MessageAbi.Proofs.Schema.FieldEntries
import MessageAbi.Proofs.Schema.Writing
import MessageAbi.Proofs.Json.StringText
import MessageAbi.Proofs.Json.NumberText
import MessageAbi.Proofs.Json.Grammar
import MessageAbi.Proofs.Json.Members
import MessageAbi.Proofs.Json.Writing
import MessageAbi.Proofs.JsonArguments.Text
import MessageAbi.Proofs.CommandLine.Arguments
import MessageAbi.Proofs.CommandLine.Files
import MessageAbi.Proofs.CommandLine.Run
import MessageAbi.Proofs.Yaml.Cursor
import MessageAbi.Proofs.Yaml.Scanner
import MessageAbi.Proofs.Yaml.JsonString
import MessageAbi.Proofs.Yaml.JsonTokens
import MessageAbi.Proofs.Yaml.JsonDocument
import MessageAbi.Proofs.Yaml.Tree
import MessageAbi.Proofs.Yaml.Datum
import MessageAbi.Proofs.Schema.JsonDocument
