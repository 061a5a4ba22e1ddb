import HeaderBindings.CType
import HeaderBindings.CommandLine.Argument
import HeaderBindings.CommandLine.Command
import HeaderBindings.CommandLine.Help
import HeaderBindings.CommandLine.Report
import HeaderBindings.CommandLine.Run
import HeaderBindings.Config
import HeaderBindings.Config.Decoding
import HeaderBindings.Config.Loading
import HeaderBindings.Diagnostic
import HeaderBindings.Enumeration
import HeaderBindings.Enumeration.Preset
import HeaderBindings.Enumeration.Request
import HeaderBindings.Files
import HeaderBindings.Files.Path
import HeaderBindings.Identifier
import HeaderBindings.JsonText
import HeaderBindings.Log
import HeaderBindings.Main
import HeaderBindings.Pattern
import HeaderBindings.Pattern.Brackets
import HeaderBindings.Pattern.CharClass
import HeaderBindings.Pattern.Escape
import HeaderBindings.Pattern.Property
import HeaderBindings.Pattern.Reading
import HeaderBindings.Preprocess
import HeaderBindings.Proofs.BlockComments
import HeaderBindings.Proofs.Comments
import HeaderBindings.Proofs.Declarations
import HeaderBindings.Proofs.Expressible
import HeaderBindings.Proofs.Extensions
import HeaderBindings.Proofs.Fragments
import HeaderBindings.Proofs.Layout
import HeaderBindings.Proofs.LineMarkers
import HeaderBindings.Proofs.Printing
import HeaderBindings.Proofs.Rendering
import HeaderBindings.Proofs.Spelling
import HeaderBindings.Proofs.Statements
import HeaderBindings.Proofs.StubNames
import HeaderBindings.Proofs.WellFormed
import HeaderBindings.Proofs.Words
import HeaderBindings.Shell.Commands
import HeaderBindings.Shell.Evaluation
import HeaderBindings.Shell.Script
import HeaderBindings.Signature
import HeaderBindings.Source.Cleaned
import HeaderBindings.Source.Comments
import HeaderBindings.Source.Declaration
import HeaderBindings.Source.Extensions
import HeaderBindings.Source.Keywords
import HeaderBindings.Source.LineMarkers
import HeaderBindings.Source.Quoting
import HeaderBindings.Source.Reading
import HeaderBindings.Source.Statements
import HeaderBindings.Source.Token
import HeaderBindings.Stubs
import HeaderBindings.Text.Blank
import HeaderBindings.Text.Boundaries
import HeaderBindings.Text.CaseFold
import HeaderBindings.Text.CategoryTable
import HeaderBindings.Text.FoldTable
import HeaderBindings.Text.Letter
import HeaderBindings.Text.LetterCase
import HeaderBindings.Text.LetterCaseTable
import HeaderBindings.Text.LetterTable
import HeaderBindings.Text.Lines
import HeaderBindings.Text.Quoted
import HeaderBindings.Text.ScriptTable
import HeaderBindings.Text.Utf8
import HeaderBindings.Text.VisibleTable
import HeaderBindings.Text.WordTable
import HeaderBindings.Toml.Document
import HeaderBindings.Toml.Number
import HeaderBindings.Toml.Reading
import HeaderBindings.Toml.Text
import HeaderBindings.Tool
import HeaderBindings.ToolSearch
import HeaderBindings.Toolbox
import HeaderBindings.TypeMap
import HeaderBindings.Wrapper
import HeaderBindings.Proofs.Regularity
import HeaderBindings.Proofs.Delimiters
import HeaderBindings.Proofs.StubText
import HeaderBindings.Proofs.Cleaning
import HeaderBindings.Proofs.FunctionBodies
import HeaderBindings.Proofs.CallLists
import HeaderBindings.Proofs.Literals
import HeaderBindings.Proofs.BodyLiterals
import HeaderBindings.Proofs.EnumerationText
import HeaderBindings.Proofs.Merging
import HeaderBindings.Proofs.Runs
import HeaderBindings.Proofs.WrapperSettings
import HeaderBindings.Proofs.WrittenSettings
import HeaderBindings.Proofs.ConfigurationFiles
import HeaderBindings.Proofs.Batches
import HeaderBindings.Proofs.Selection
import HeaderBindings.Proofs.Outcomes
import HeaderBindings.Offsets.Access
import HeaderBindings.Offsets.Scans
import HeaderBindings.Offsets.Declarations
import HeaderBindings.Offsets.Reading
import HeaderBindings.Proofs.Offsets.Bytes
import HeaderBindings.Proofs.Offsets.Groups
import HeaderBindings.Proofs.Offsets.Comments
import HeaderBindings.Proofs.Offsets.Calls
import HeaderBindings.Proofs.Offsets.Statements
import HeaderBindings.Proofs.Offsets.Declarations
import HeaderBindings.Proofs.Offsets.Reading
import HeaderBindings.Proofs.CommentLexer
import HeaderBindings.Proofs.StatementCuts
import HeaderBindings.Proofs.ToolRuns
import HeaderBindings.Proofs.PairedTexts
import HeaderBindings.Proofs.Nesting
import HeaderBindings.Proofs.BraceGroups
import HeaderBindings.Proofs.StatementParts
import HeaderBindings.Proofs.CallSites
import HeaderBindings.Proofs.Declarators
import HeaderBindings.Proofs.Lines
import HeaderBindings.Proofs.FirstErrors
import HeaderBindings.Proofs.Echo
import HeaderBindings.Proofs.BuiltinSpellings
import HeaderBindings.Proofs.TypePlaces
import HeaderBindings.Proofs.RespelledStubs
import HeaderBindings.Proofs.LetterCase
import HeaderBindings.Proofs.Casing
import HeaderBindings.Proofs.VariantNames
import HeaderBindings.Proofs.DistinctNames
import HeaderBindings.Proofs.Listings
import HeaderBindings.Proofs.DiagnosticText
import HeaderBindings.Proofs.TypeReading
import HeaderBindings.Proofs.Offsets.CodePositions
import HeaderBindings.Proofs.Offsets.Balance
import HeaderBindings.Proofs.TokenTexts
import HeaderBindings.Proofs.ParameterGroups
import HeaderBindings.Proofs.Encoding
import HeaderBindings.Proofs.WrittenFiles
import HeaderBindings.Proofs.SavedSources
import HeaderBindings.Proofs.ScriptRuns
import HeaderBindings.Proofs.SmallPrograms
