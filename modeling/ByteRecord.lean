import ByteRecord.Catalogue.Compile
import ByteRecord.Catalogue.Format
import ByteRecord.Catalogue.Identify
import ByteRecord.Catalogue.Path
import ByteRecord.Catalogue.Standard
import ByteRecord.CommandLine.Files
import ByteRecord.CommandLine.Invocation
import ByteRecord.CommandLine.Json
import ByteRecord.CommandLine.Options
import ByteRecord.CommandLine.Run
import ByteRecord.Effect
import ByteRecord.Expr.Compile
import ByteRecord.Expr.Elements
import ByteRecord.Expr.Embedded
import ByteRecord.Expr.Evaluate
import ByteRecord.Expr.Interpreter
import ByteRecord.Expr.Lexeme
import ByteRecord.Expr.Literal
import ByteRecord.Expr.Operator
import ByteRecord.Expr.Parser
import ByteRecord.Expr.Scoping
import ByteRecord.Expr.Strings
import ByteRecord.Expr.Syntax
import ByteRecord.Fault.Basic
import ByteRecord.Fault.Cause
import ByteRecord.Fault.Parse
import ByteRecord.Fault.Specification
import ByteRecord.Field.Basic
import ByteRecord.Field.Evaluate
import ByteRecord.Field.Parts
import ByteRecord.Field.Reader
import ByteRecord.Hex.Digit
import ByteRecord.Hex.InPlace
import ByteRecord.Hex.Lexer
import ByteRecord.Hex.Token
import ByteRecord.Lexical.Number
import ByteRecord.Lexical.Operator
import ByteRecord.Lexical.StringForm
import ByteRecord.Main
import ByteRecord.Number.Binary64
import ByteRecord.Number.Decimal
import ByteRecord.Number.Power
import ByteRecord.Number.Shortest
import ByteRecord.Pattern.Basic
import ByteRecord.Pattern.Forms
import ByteRecord.Pattern.Match
import ByteRecord.Pattern.Reader
import ByteRecord.Plan.Assemble
import ByteRecord.Plan.Basic
import ByteRecord.Plan.Buffer
import ByteRecord.Plan.Layout
import ByteRecord.Plan.Library
import ByteRecord.Plan.Reader
import ByteRecord.Plan.Run
import ByteRecord.Plan.Stream
import ByteRecord.Proofs.Catalogue.Compiled
import ByteRecord.Proofs.Catalogue.Conversions
import ByteRecord.Proofs.Catalogue.Head
import ByteRecord.Proofs.Catalogue.Identified
import ByteRecord.Proofs.Catalogue.Mapping
import ByteRecord.Proofs.Catalogue.Patterns
import ByteRecord.Proofs.Catalogue.Ranking
import ByteRecord.Proofs.Catalogue.Reported
import ByteRecord.Proofs.Catalogue.Steady
import ByteRecord.Proofs.CommandLine.Escapes
import ByteRecord.Proofs.CommandLine.Gate
import ByteRecord.Proofs.CommandLine.Reprinted
import ByteRecord.Proofs.Effect.Assignments
import ByteRecord.Proofs.Effect.Entries
import ByteRecord.Proofs.Effect.Log
import ByteRecord.Proofs.Effect.Sights
import ByteRecord.Proofs.Effect.Spared
import ByteRecord.Proofs.Effect.Unchanged
import ByteRecord.Proofs.Expr.Assignments
import ByteRecord.Proofs.Expr.Beginnings
import ByteRecord.Proofs.Expr.Brackets
import ByteRecord.Proofs.Expr.Displays
import ByteRecord.Proofs.Expr.Enclosed
import ByteRecord.Proofs.Expr.Lexemes
import ByteRecord.Proofs.Expr.Operands
import ByteRecord.Proofs.Expr.Quoted
import ByteRecord.Proofs.Expr.Reading
import ByteRecord.Proofs.Expr.Results
import ByteRecord.Proofs.Hex.EarliestError
import ByteRecord.Proofs.Hex.Histories
import ByteRecord.Proofs.Hex.Language
import ByteRecord.Proofs.Hex.Positions
import ByteRecord.Proofs.Hex.Rendered
import ByteRecord.Proofs.Hex.Segments
import ByteRecord.Proofs.Hex.Spaced
import ByteRecord.Proofs.Lexical.Delimiters
import ByteRecord.Proofs.Lexical.Escapes
import ByteRecord.Proofs.Lexical.Literals
import ByteRecord.Proofs.Lexical.Numerals
import ByteRecord.Proofs.Pattern.ByteValue
import ByteRecord.Proofs.Pattern.Displayed
import ByteRecord.Proofs.Pattern.Lists
import ByteRecord.Proofs.Pattern.OpenRange
import ByteRecord.Proofs.Pattern.Surfaces
import ByteRecord.Proofs.Plan.Exchanges
import ByteRecord.Proofs.Plan.Isolation
import ByteRecord.Proofs.Plan.Layout
import ByteRecord.Proofs.Plan.Mismatches
import ByteRecord.Proofs.Plan.Order
import ByteRecord.Proofs.Plan.Refusals
import ByteRecord.Proofs.Plan.Symbols
import ByteRecord.Proofs.Plan.WellFormed
import ByteRecord.Proofs.Record.Alike
import ByteRecord.Proofs.Record.Arguments
import ByteRecord.Proofs.Record.Filled
import ByteRecord.Proofs.Record.FixedBytes
import ByteRecord.Proofs.Record.Gathered
import ByteRecord.Proofs.Record.Interference
import ByteRecord.Proofs.Record.Making
import ByteRecord.Proofs.Record.Merged
import ByteRecord.Proofs.Record.Offsets
import ByteRecord.Proofs.Record.RestForms
import ByteRecord.Proofs.Record.Slices
import ByteRecord.Proofs.Source.Cut
import ByteRecord.Proofs.Source.LineStarts
import ByteRecord.Proofs.Source.Places
import ByteRecord.Proofs.Source.Reads
import ByteRecord.Proofs.Source.Rows
import ByteRecord.Proofs.Source.Scanning
import ByteRecord.Proofs.Source.Spelling
import ByteRecord.Proofs.Source.Words
import ByteRecord.Proofs.Specification.Advances
import ByteRecord.Proofs.Specification.Ahead
import ByteRecord.Proofs.Specification.Bodies
import ByteRecord.Proofs.Specification.Declarations
import ByteRecord.Proofs.Specification.Extent
import ByteRecord.Proofs.Specification.Fields
import ByteRecord.Proofs.Specification.Grammar
import ByteRecord.Proofs.Specification.Patterns
import ByteRecord.Proofs.Specification.Printed
import ByteRecord.Proofs.Specification.Refusals
import ByteRecord.Proofs.Specification.RoundTrip
import ByteRecord.Proofs.Specification.Run
import ByteRecord.Proofs.Stream.Accounting
import ByteRecord.Proofs.Stream.Chunks
import ByteRecord.Proofs.Stream.HeldBytes
import ByteRecord.Proofs.Stream.OwnBytes
import ByteRecord.Proofs.Stream.Protocols
import ByteRecord.Proofs.Stream.Recording
import ByteRecord.Proofs.Stream.Records
import ByteRecord.Proofs.Stream.Simulation
import ByteRecord.Source.Cursor
import ByteRecord.Source.Token
import ByteRecord.Source.Tokenizer
import ByteRecord.Text.Case
import ByteRecord.Text.CaseRuns
import ByteRecord.Text.CasedRanges
import ByteRecord.Text.CharClass
import ByteRecord.Text.CharacterNames
import ByteRecord.Text.Digits
import ByteRecord.Text.Identifier
import ByteRecord.Text.IdentifierRanges
import ByteRecord.Text.Lines
import ByteRecord.Text.PrintableRanges
import ByteRecord.Text.Quoted
import ByteRecord.Text.Ranges
import ByteRecord.Text.WordRanges
import ByteRecord.Value.Arithmetic
import ByteRecord.Value.Attribute
import ByteRecord.Value.Basic
import ByteRecord.Value.Call
import ByteRecord.Value.Convert
import ByteRecord.Value.Equality
import ByteRecord.Value.Failure
import ByteRecord.Value.Index
import ByteRecord.Value.Method
import ByteRecord.Value.Packed
import ByteRecord.Value.Scope
import ByteRecord.Value.Text
import ByteRecord.Value.Vocabulary
import ByteRecord.Yaml.Place
import ByteRecord.Yaml.Reader
import ByteRecord.Yaml.Scalar
import ByteRecord.Yaml.Text
