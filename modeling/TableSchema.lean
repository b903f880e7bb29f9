import TableSchema.Command.Arguments
import TableSchema.Command.Diagnostic
import TableSchema.Command.Run
import TableSchema.Compile
import TableSchema.Error
import TableSchema.Example.Documents
import TableSchema.Example.Fair
import TableSchema.Example.Market
import TableSchema.Example.Program
import TableSchema.Files.Access
import TableSchema.Files.Error
import TableSchema.Files.Path
import TableSchema.Files.Tree
import TableSchema.Generate.Artifact
import TableSchema.Generate.CppEmission
import TableSchema.Generate.CppHeader
import TableSchema.Generate.CppNames
import TableSchema.Generate.CppSource
import TableSchema.Generate.CppStruct
import TableSchema.Generate.Emission
import TableSchema.Generate.Lines
import TableSchema.Generate.RustEmission
import TableSchema.Generate.RustNames
import TableSchema.Generate.RustStruct
import TableSchema.Generate.RustTable
import TableSchema.Main
import TableSchema.Markup.Character
import TableSchema.Markup.Cursor
import TableSchema.Markup.Document
import TableSchema.Markup.Element
import TableSchema.Markup.Reference
import TableSchema.Proofs.Files.CutRuns
import TableSchema.Proofs.Files.Operations
import TableSchema.Proofs.Files.Paths
import TableSchema.Proofs.Files.Routes
import TableSchema.Proofs.Generate.Bare
import TableSchema.Proofs.Generate.BareCpp
import TableSchema.Proofs.Generate.BareRust
import TableSchema.Proofs.Generate.ClassScope
import TableSchema.Proofs.Generate.CppIncludes
import TableSchema.Proofs.Generate.CppParsers
import TableSchema.Proofs.Generate.DefinedTypes
import TableSchema.Proofs.Generate.DueBrackets
import TableSchema.Proofs.Generate.EmittedFiles
import TableSchema.Proofs.Generate.EveryLine
import TableSchema.Proofs.Generate.FileNames
import TableSchema.Proofs.Generate.HeaderFrames
import TableSchema.Proofs.Generate.LinePatterns
import TableSchema.Proofs.Generate.Mentions
import TableSchema.Proofs.Generate.ModuleList
import TableSchema.Proofs.Generate.NestedCpp
import TableSchema.Proofs.Generate.NestedFiles
import TableSchema.Proofs.Generate.NestedRust
import TableSchema.Proofs.Generate.OwnFiles
import TableSchema.Proofs.Generate.ParseSteps
import TableSchema.Proofs.Generate.PlainText
import TableSchema.Proofs.Generate.Printable
import TableSchema.Proofs.Generate.PrintableCpp
import TableSchema.Proofs.Generate.PrintableRust
import TableSchema.Proofs.Generate.RustImports
import TableSchema.Proofs.Generate.RustParsers
import TableSchema.Proofs.Generate.Scopes
import TableSchema.Proofs.Generate.ShownCode
import TableSchema.Proofs.Generate.SnakeCase
import TableSchema.Proofs.Generate.UsedImports
import TableSchema.Proofs.Generate.UsedStructs
import TableSchema.Proofs.Generate.WriteEffects
import TableSchema.Proofs.Pipeline
import TableSchema.Proofs.Schema.Accepted
import TableSchema.Proofs.Schema.Analyzed
import TableSchema.Proofs.Schema.Building
import TableSchema.Proofs.Schema.Catalogs
import TableSchema.Proofs.Schema.Declarations
import TableSchema.Proofs.Schema.Declared
import TableSchema.Proofs.Schema.Filtering
import TableSchema.Proofs.Schema.Verdict
import TableSchema.Proofs.Schema.Verified
import TableSchema.Proofs.Schema.ViewRuns
import TableSchema.Proofs.Schema.Views
import TableSchema.Proofs.Success
import TableSchema.Proofs.Table.Agreement
import TableSchema.Proofs.Table.ByteCells
import TableSchema.Proofs.Table.ByteRows
import TableSchema.Proofs.Table.CellRules
import TableSchema.Proofs.Table.Collections
import TableSchema.Proofs.Table.CutLines
import TableSchema.Proofs.Table.CutReading
import TableSchema.Proofs.Table.CutViews
import TableSchema.Proofs.Table.Decoding
import TableSchema.Proofs.Table.FirstFault
import TableSchema.Proofs.Table.GeneratedParsers
import TableSchema.Proofs.Table.Grammar
import TableSchema.Proofs.Table.HiddenCells
import TableSchema.Proofs.Table.KeyedLaws
import TableSchema.Proofs.Table.Layouts
import TableSchema.Proofs.Table.LineChecks
import TableSchema.Proofs.Table.LineEnds
import TableSchema.Proofs.Table.Lines
import TableSchema.Proofs.Table.Quoting
import TableSchema.Proofs.Table.RecordCells
import TableSchema.Proofs.Table.Reports
import TableSchema.Proofs.Table.Restriction
import TableSchema.Proofs.Table.RoundTrip
import TableSchema.Proofs.Table.Segmentation
import TableSchema.Proofs.Table.TokenReads
import TableSchema.Proofs.Table.Tokens
import TableSchema.Proofs.Table.Values
import TableSchema.Proofs.Table.Written
import TableSchema.Proofs.Table.WrittenRows
import TableSchema.Proofs.Text.Brackets
import TableSchema.Proofs.Text.Integers
import TableSchema.Proofs.Text.LeadingNumbers
import TableSchema.Proofs.Text.LineEndings
import TableSchema.Proofs.Text.Parts
import TableSchema.Proofs.Text.Printf
import TableSchema.Proofs.Text.Utf8
import TableSchema.Schema.Analysis
import TableSchema.Schema.Basic
import TableSchema.Schema.Catalog
import TableSchema.Schema.Dump
import TableSchema.Schema.ReaderSet
import TableSchema.Schema.Verify
import TableSchema.Schema.View
import TableSchema.Schema.WellFormed
import TableSchema.Table.ByteReader
import TableSchema.Table.ByteSplitter
import TableSchema.Table.Cell
import TableSchema.Table.CppObjects
import TableSchema.Table.CppReading
import TableSchema.Table.Cutting
import TableSchema.Table.Fault
import TableSchema.Table.KeyedRows
import TableSchema.Table.Layout
import TableSchema.Table.Reading
import TableSchema.Table.Row
import TableSchema.Table.Rules
import TableSchema.Table.Session
import TableSchema.Table.Splitter
import TableSchema.Table.TokenReads
import TableSchema.Table.Value
import TableSchema.Table.Writing
import TableSchema.Text.Bytes
import TableSchema.Text.Identifier
import TableSchema.Text.Integer
import TableSchema.Text.Json
import TableSchema.Text.LineEnding
import TableSchema.Text.Printf
import TableSchema.Text.Quoted
import TableSchema.Text.SnakeCase
import TableSchema.Text.Split
import TableSchema.Text.Utf8
import TableSchema.Unicode.Case
import TableSchema.Unicode.CaseMap
import TableSchema.Unicode.Property
