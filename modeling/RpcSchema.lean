import RpcSchema.Code.Builder
import RpcSchema.Code.Fragment
import RpcSchema.Code.Mark
import RpcSchema.Code.NameSet
import RpcSchema.CommandLine.Command
import RpcSchema.CommandLine.Run
import RpcSchema.CommandLine.Setting
import RpcSchema.Decimal.Binary
import RpcSchema.Decimal.Notation
import RpcSchema.Decimal.Shortest
import RpcSchema.Files.Delivery
import RpcSchema.Files.Path
import RpcSchema.Files.Tree
import RpcSchema.Generate.Backend
import RpcSchema.Generate.Error
import RpcSchema.Generate.File
import RpcSchema.Generate.Model
import RpcSchema.Generate.Threads
import RpcSchema.Generate.TypeMapping
import RpcSchema.Json.Decoding
import RpcSchema.Json.Fault
import RpcSchema.Json.Literal
import RpcSchema.Json.Node
import RpcSchema.Json.Position
import RpcSchema.Json.Printer
import RpcSchema.Json.Reader
import RpcSchema.Json.Value
import RpcSchema.Main
import RpcSchema.Naming.Acronyms
import RpcSchema.Naming.Convention
import RpcSchema.Naming.Words
import RpcSchema.Pipeline.Diagnostic
import RpcSchema.Pipeline.Lint
import RpcSchema.Pipeline.Run
import RpcSchema.Proofs.Code.Comments
import RpcSchema.Proofs.Code.DocBlocks
import RpcSchema.Proofs.Code.Imports
import RpcSchema.Proofs.Code.Literals
import RpcSchema.Proofs.Code.Nesting
import RpcSchema.Proofs.Code.Patterns
import RpcSchema.Proofs.Code.Rows
import RpcSchema.Proofs.Code.RustLiterals
import RpcSchema.Proofs.Code.StructTags
import RpcSchema.Proofs.Code.TypeWords
import RpcSchema.Proofs.Code.XmlText
import RpcSchema.Proofs.CommandLine.Batches
import RpcSchema.Proofs.CommandLine.Runs
import RpcSchema.Proofs.Dates.Closure
import RpcSchema.Proofs.Dates.Places
import RpcSchema.Proofs.Dates.Revival
import RpcSchema.Proofs.Dates.Script
import RpcSchema.Proofs.Dates.Search
import RpcSchema.Proofs.Documentation.Examples
import RpcSchema.Proofs.Documentation.Links
import RpcSchema.Proofs.Documentation.Pages
import RpcSchema.Proofs.Documentation.Paths
import RpcSchema.Proofs.Documentation.Sections
import RpcSchema.Proofs.Files.Delivery
import RpcSchema.Proofs.Files.Paths
import RpcSchema.Proofs.Files.Repeats
import RpcSchema.Proofs.Files.Walks
import RpcSchema.Proofs.Generation.Comments
import RpcSchema.Proofs.Generation.Concurrency
import RpcSchema.Proofs.Generation.Descriptions
import RpcSchema.Proofs.Generation.DocComments
import RpcSchema.Proofs.Generation.Errors
import RpcSchema.Proofs.Generation.FieldTypes
import RpcSchema.Proofs.Generation.FilePaths
import RpcSchema.Proofs.Generation.GoImports
import RpcSchema.Proofs.Generation.GoNeeds
import RpcSchema.Proofs.Generation.Outlines
import RpcSchema.Proofs.Generation.References
import RpcSchema.Proofs.Generation.RustFunctions
import RpcSchema.Proofs.Generation.RustTexts
import RpcSchema.Proofs.Generation.TypeDescriptions
import RpcSchema.Proofs.Generation.Validated
import RpcSchema.Proofs.Generation.WireKeys
import RpcSchema.Proofs.Generation.Words
import RpcSchema.Proofs.Json.Agreement
import RpcSchema.Proofs.Json.AsWritten
import RpcSchema.Proofs.Json.Exactness
import RpcSchema.Proofs.Json.Faults
import RpcSchema.Proofs.Json.Leaves
import RpcSchema.Proofs.Json.Positions
import RpcSchema.Proofs.Json.PrintedLines
import RpcSchema.Proofs.Json.Printing
import RpcSchema.Proofs.Json.RecordAgreement
import RpcSchema.Proofs.Json.RoundTrip
import RpcSchema.Proofs.Naming.Alike
import RpcSchema.Proofs.Naming.Conventions
import RpcSchema.Proofs.Naming.Escaping
import RpcSchema.Proofs.Naming.FirstWords
import RpcSchema.Proofs.Naming.Identifiers
import RpcSchema.Proofs.Naming.Marks
import RpcSchema.Proofs.Naming.RustKeywords
import RpcSchema.Proofs.Naming.Scanning
import RpcSchema.Proofs.Naming.Shapes
import RpcSchema.Proofs.Pipeline.Policies
import RpcSchema.Proofs.Pipeline.Visits
import RpcSchema.Proofs.Schema.Arrangement
import RpcSchema.Proofs.Schema.Canonical
import RpcSchema.Proofs.Schema.Conformance
import RpcSchema.Proofs.Schema.Coverage
import RpcSchema.Proofs.Schema.Descriptions
import RpcSchema.Proofs.Schema.Equality
import RpcSchema.Proofs.Schema.Examples
import RpcSchema.Proofs.Schema.Grammar
import RpcSchema.Proofs.Schema.Labels
import RpcSchema.Proofs.Schema.Loading
import RpcSchema.Proofs.Schema.Locations
import RpcSchema.Proofs.Schema.Names
import RpcSchema.Proofs.Schema.Owners
import RpcSchema.Proofs.Schema.QuotedLists
import RpcSchema.Proofs.Schema.Reading
import RpcSchema.Proofs.Schema.Reordering
import RpcSchema.Proofs.Schema.Rewording
import RpcSchema.Proofs.Schema.TypeForms
import RpcSchema.Proofs.Text.Bytes
import RpcSchema.Proofs.Text.Numerals
import RpcSchema.Proofs.Validation.Acceptance
import RpcSchema.Proofs.Validation.Defaults
import RpcSchema.Proofs.Validation.ErrorCount
import RpcSchema.Proofs.Validation.Programs
import RpcSchema.Proofs.Validation.SameVerdict
import RpcSchema.Proofs.Wire.Answers
import RpcSchema.Proofs.Wire.Bodies
import RpcSchema.Proofs.Wire.Calls
import RpcSchema.Proofs.Wire.Dispatch
import RpcSchema.Proofs.Wire.Exchanges
import RpcSchema.Proofs.Wire.Routing
import RpcSchema.Sample.Pet
import RpcSchema.Sample.TodoSchema
import RpcSchema.Sample.TodoService
import RpcSchema.Schema.Basic
import RpcSchema.Schema.Canonical
import RpcSchema.Schema.Check
import RpcSchema.Schema.Decoding
import RpcSchema.Schema.Describe
import RpcSchema.Schema.Field
import RpcSchema.Schema.Load
import RpcSchema.Schema.Resolve
import RpcSchema.Schema.Shape
import RpcSchema.Target.CsClient
import RpcSchema.Target.CsCode
import RpcSchema.Target.GoClient
import RpcSchema.Target.GoCode
import RpcSchema.Target.GoServer
import RpcSchema.Target.GoTypes
import RpcSchema.Target.GoValidation
import RpcSchema.Target.MarkdownDocs
import RpcSchema.Target.MarkdownPage
import RpcSchema.Target.RustClient
import RpcSchema.Target.RustCode
import RpcSchema.Target.RustServer
import RpcSchema.Target.RustTypes
import RpcSchema.Target.RustValidation
import RpcSchema.Target.TsClient
import RpcSchema.Target.TsCode
import RpcSchema.Target.TsRevivers
import RpcSchema.Target.TsTypes
import RpcSchema.Text.Alphanumeric
import RpcSchema.Text.Blank
import RpcSchema.Text.CodeRun
import RpcSchema.Text.LetterCase
import RpcSchema.Text.Lines
import RpcSchema.Text.Printable
import RpcSchema.Text.Quoted
import RpcSchema.Wire.Payload
import RpcSchema.Wire.Reading
import RpcSchema.Wire.Refusal
import RpcSchema.Wire.Request
import RpcSchema.Wire.Response
import RpcSchema.Wire.Route
import RpcSchema.Wire.Service
