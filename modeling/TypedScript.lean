import TypedScript.Command.Arguments
import TypedScript.Command.Report
import TypedScript.Command.Run
import TypedScript.Command.Session
import TypedScript.Diagnostic
import TypedScript.Files.Basic
import TypedScript.Files.Path
import TypedScript.Files.Tree
import TypedScript.Json.Basic
import TypedScript.Json.Text
import TypedScript.Json.Token
import TypedScript.Lexicon.Keyword
import TypedScript.Lexicon.Kind
import TypedScript.Lexicon.Punctuator
import TypedScript.Lexicon.TokenKind
import TypedScript.Main
import TypedScript.Options
import TypedScript.Outline
import TypedScript.Parser.Basic
import TypedScript.Parser.Entry
import TypedScript.Parser.Error
import TypedScript.Parser.Expressions
import TypedScript.Parser.Functions
import TypedScript.Parser.Machine.Basic
import TypedScript.Parser.Machine.Expressions
import TypedScript.Parser.Machine.Statements
import TypedScript.Parser.Machine.Types
import TypedScript.Parser.Nesting
import TypedScript.Parser.Statements
import TypedScript.Parser.Types
import TypedScript.Pattern.Basic
import TypedScript.Pattern.Brackets
import TypedScript.Pattern.CharacterClass
import TypedScript.Pattern.Escape
import TypedScript.Pattern.Flags
import TypedScript.Pattern.Footprint
import TypedScript.Pattern.Instructions
import TypedScript.Pattern.Reader
import TypedScript.Pattern.Regex
import TypedScript.Project
import TypedScript.Proofs.Acceptance.Basic
import TypedScript.Proofs.Acceptance.Functions
import TypedScript.Proofs.Acceptance.Lexemes
import TypedScript.Proofs.Acceptance.Types
import TypedScript.Proofs.Angles.Basic
import TypedScript.Proofs.Angles.Expressions
import TypedScript.Proofs.Angles.Programs
import TypedScript.Proofs.Angles.Types
import TypedScript.Proofs.Braces.Basic
import TypedScript.Proofs.Braces.Expressions
import TypedScript.Proofs.Braces.Programs
import TypedScript.Proofs.Chains
import TypedScript.Proofs.Chains.Loops
import TypedScript.Proofs.Chains.Tokens
import TypedScript.Proofs.Checked.Bytes
import TypedScript.Proofs.Checked.Counters
import TypedScript.Proofs.Checked.Lexer
import TypedScript.Proofs.Checked.LineMap
import TypedScript.Proofs.Checked.Places
import TypedScript.Proofs.Checked.Ranges
import TypedScript.Proofs.Checked.Space
import TypedScript.Proofs.Checked.Stream
import TypedScript.Proofs.Checked.Tokens
import TypedScript.Proofs.Concatenation
import TypedScript.Proofs.Conditionals
import TypedScript.Proofs.Conditionals.Rules
import TypedScript.Proofs.Conditionals.Tokens
import TypedScript.Proofs.Confinement.Basic
import TypedScript.Proofs.Confinement.Expressions
import TypedScript.Proofs.Confinement.Statements
import TypedScript.Proofs.Confinement.Types
import TypedScript.Proofs.Coordinates
import TypedScript.Proofs.Coverage
import TypedScript.Proofs.Depth.Basic
import TypedScript.Proofs.Depth.Expressions
import TypedScript.Proofs.Depth.Programs
import TypedScript.Proofs.Depth.Types
import TypedScript.Proofs.Encoding.Basic
import TypedScript.Proofs.Encoding.Stored
import TypedScript.Proofs.Encoding.Trees
import TypedScript.Proofs.EntryPoints
import TypedScript.Proofs.ErrorPlaces
import TypedScript.Proofs.Escapes
import TypedScript.Proofs.FileReports
import TypedScript.Proofs.Findings
import TypedScript.Proofs.FirstLine
import TypedScript.Proofs.History
import TypedScript.Proofs.LayoutIndependence
import TypedScript.Proofs.LexicalErrors
import TypedScript.Proofs.Lexing.Basic
import TypedScript.Proofs.Lexing.Joining
import TypedScript.Proofs.Lexing.Parentheses
import TypedScript.Proofs.Lexing.Separators
import TypedScript.Proofs.Lexing.SharedBeginning
import TypedScript.Proofs.Lexing.Shift
import TypedScript.Proofs.Lexing.Spaced
import TypedScript.Proofs.Lexing.Strings
import TypedScript.Proofs.Lexing.Writing
import TypedScript.Proofs.LineBreaks
import TypedScript.Proofs.LineStarts
import TypedScript.Proofs.LinesAndColumns
import TypedScript.Proofs.LongestMatch
import TypedScript.Proofs.Machine.Basic
import TypedScript.Proofs.Machine.Exact
import TypedScript.Proofs.Machine.Expressions
import TypedScript.Proofs.Machine.Statements
import TypedScript.Proofs.Machine.Types
import TypedScript.Proofs.NestingLimit
import TypedScript.Proofs.NoFailure
import TypedScript.Proofs.Placeholders
import TypedScript.Proofs.Printing
import TypedScript.Proofs.Progress.Bodies
import TypedScript.Proofs.Progress.Calls
import TypedScript.Proofs.Progress.Chains
import TypedScript.Proofs.Progress.Loops
import TypedScript.Proofs.Progress.Productions
import TypedScript.Proofs.Reading.Basic
import TypedScript.Proofs.Reading.Expressions
import TypedScript.Proofs.Reading.Functions
import TypedScript.Proofs.Reading.Levels
import TypedScript.Proofs.Reading.Programs
import TypedScript.Proofs.Reading.Statements
import TypedScript.Proofs.Reading.Tokens
import TypedScript.Proofs.Reading.Types
import TypedScript.Proofs.Recorded
import TypedScript.Proofs.Relocation
import TypedScript.Proofs.Rerun.Basic
import TypedScript.Proofs.Rerun.Brackets
import TypedScript.Proofs.Rerun.Expressions
import TypedScript.Proofs.Rerun.Statements
import TypedScript.Proofs.Rerun.Tokens
import TypedScript.Proofs.Rerun.Transfer
import TypedScript.Proofs.Rerun.Types
import TypedScript.Proofs.ReservedWords
import TypedScript.Proofs.Shape.Basic
import TypedScript.Proofs.Shape.Expressions
import TypedScript.Proofs.Shape.Programs
import TypedScript.Proofs.Shape.Types
import TypedScript.Proofs.Skipping
import TypedScript.Proofs.SpanLaw
import TypedScript.Proofs.Spelling
import TypedScript.Proofs.StatementEnds
import TypedScript.Proofs.StreamRefinement
import TypedScript.Proofs.StringValues
import TypedScript.Proofs.Termination
import TypedScript.Proofs.Tiling
import TypedScript.Proofs.TokenListing
import TypedScript.Proofs.TokenOrder
import TypedScript.Proofs.TokensWithin
import TypedScript.Proofs.Traversal
import TypedScript.Proofs.Trials
import TypedScript.Proofs.TwoRuns.Basic
import TypedScript.Proofs.TwoRuns.Expressions
import TypedScript.Proofs.TwoRuns.Levels
import TypedScript.Proofs.TwoRuns.Statements
import TypedScript.Proofs.TwoRuns.Tokens
import TypedScript.Proofs.TwoRuns.Types
import TypedScript.Proofs.TypeRoundTrip
import TypedScript.Search
import TypedScript.Text.ByteSequence
import TypedScript.Text.CaseFold
import TypedScript.Text.Characters
import TypedScript.Text.CodePoints
import TypedScript.Text.GraphemeExtend
import TypedScript.Text.Letter
import TypedScript.Text.LineBreak
import TypedScript.Text.LineMap
import TypedScript.Text.Numeral
import TypedScript.Text.Position
import TypedScript.Text.Quoted
import TypedScript.Text.Span
import TypedScript.Text.Unprintable
import TypedScript.Text.WordCharacter
import TypedScript.Text.XidContinue
import TypedScript.Text.XidStart
import TypedScript.Token.Basic
import TypedScript.Token.Escape
import TypedScript.Token.Lexer
import TypedScript.Token.Recorded
import TypedScript.Token.Scan
import TypedScript.Token.Stream
import TypedScript.Token.Trivia
import TypedScript.Tree.Basic
import TypedScript.Tree.Encoding
import TypedScript.Tree.Node
import TypedScript.Tree.Spans
import TypedScript.Tree.Stored
import TypedScript.Tree.StoredEncoding
import TypedScript.Tree.Untagged
import TypedScript.Tree.Visit
