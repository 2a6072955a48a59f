import Sexpr.Breakdown
import Sexpr.Command.Arguments
import Sexpr.Command.Config
import Sexpr.Command.Help
import Sexpr.Command.Invocation
import Sexpr.Command.Run
import Sexpr.Command.Show
import Sexpr.Command.Transcript
import Sexpr.Decimal.Binary64
import Sexpr.Decimal.Shortest
import Sexpr.Decimal.Text
import Sexpr.Files.Fault
import Sexpr.Files.Path
import Sexpr.Files.Resolution
import Sexpr.Files.Tree
import Sexpr.Grammar.Cursor
import Sexpr.Grammar.Fault
import Sexpr.Grammar.Procedure
import Sexpr.Grammar.Rules
import Sexpr.Journal
import Sexpr.Journal.Layout
import Sexpr.Journal.Numeral
import Sexpr.Journal.Record
import Sexpr.Json
import Sexpr.Main
import Sexpr.Moment
import Sexpr.Platform
import Sexpr.Position
import Sexpr.Program
import Sexpr.Proofs.Command.Afterwards
import Sexpr.Proofs.Command.Agreement
import Sexpr.Proofs.Command.Creating
import Sexpr.Proofs.Command.Reporting
import Sexpr.Proofs.Command.Showing
import Sexpr.Proofs.Files.Growth
import Sexpr.Proofs.Files.Looking
import Sexpr.Proofs.Files.Making
import Sexpr.Proofs.Grammar.Atoms
import Sexpr.Proofs.Grammar.DepthScan
import Sexpr.Proofs.Grammar.Derivation
import Sexpr.Proofs.Grammar.Language
import Sexpr.Proofs.Grammar.Locality
import Sexpr.Proofs.Grammar.Outcome
import Sexpr.Proofs.Grammar.Places
import Sexpr.Proofs.Grammar.Reading
import Sexpr.Proofs.Grammar.Recursion
import Sexpr.Proofs.Grammar.Rules
import Sexpr.Proofs.Grammar.Splicing
import Sexpr.Proofs.Grammar.Strays
import Sexpr.Proofs.Grammar.ViablePrefix
import Sexpr.Proofs.Journal.Delivery
import Sexpr.Proofs.Json.Escapes
import Sexpr.Proofs.Json.Reading
import Sexpr.Proofs.Program.Agreement
import Sexpr.Proofs.Program.Joining
import Sexpr.Proofs.Program.LineEnds
import Sexpr.Proofs.Program.Spelling
import Sexpr.Proofs.Settings.Discovery
import Sexpr.Proofs.Settings.Faults
import Sexpr.Proofs.Settings.Layers
import Sexpr.Proofs.Settings.Loading
import Sexpr.Proofs.Settings.Merging
import Sexpr.Proofs.Settings.Precedence
import Sexpr.Proofs.Settings.Rearrangement
import Sexpr.Proofs.Settings.Regrowth
import Sexpr.Proofs.Settings.Requests
import Sexpr.Proofs.Settings.Slots
import Sexpr.Proofs.Settings.Template
import Sexpr.Proofs.Text.Encoding
import Sexpr.Proofs.Text.Lines
import Sexpr.Proofs.Token.FaultPlace
import Sexpr.Proofs.Token.Layout
import Sexpr.Proofs.Token.Lexing
import Sexpr.Proofs.Token.LineEnds
import Sexpr.Proofs.Token.Munch
import Sexpr.Proofs.Token.Priority
import Sexpr.Proofs.Token.Readers
import Sexpr.Proofs.Token.Relex
import Sexpr.Proofs.Token.Seams
import Sexpr.Proofs.Token.Sharing
import Sexpr.Proofs.Token.Spacing
import Sexpr.Proofs.Token.Strings
import Sexpr.Proofs.Toml.Headers
import Sexpr.Proofs.Tree.Address
import Sexpr.Proofs.Tree.Document
import Sexpr.Proofs.Tree.Draft
import Sexpr.Proofs.Tree.Indentation
import Sexpr.Proofs.Tree.Listing
import Sexpr.Proofs.Tree.Walk
import Sexpr.Report
import Sexpr.Settings.Basic
import Sexpr.Settings.Load
import Sexpr.Settings.Merge
import Sexpr.Settings.Search
import Sexpr.Settings.Template
import Sexpr.Source
import Sexpr.Symbol
import Sexpr.Text.Character
import Sexpr.Text.Lines
import Sexpr.Text.Printable
import Sexpr.Text.Quoted
import Sexpr.Text.Utf8
import Sexpr.Text.Word
import Sexpr.Token
import Sexpr.Token.Lexeme
import Sexpr.Token.Scan
import Sexpr.Token.Scanner
import Sexpr.Toml.Document
import Sexpr.Toml.Fault
import Sexpr.Toml.Item
import Sexpr.Toml.Moment
import Sexpr.Toml.Number
import Sexpr.Toml.Table
import Sexpr.Toml.Word
import Sexpr.Tree.Basic
import Sexpr.Tree.Comparison
import Sexpr.Tree.Document
import Sexpr.Tree.Draft
import Sexpr.Tree.Listing
import Sexpr.Tree.Walk
import Sexpr.Value
