import Polyquery.Catalog.Basic
import Polyquery.Catalog.Pins
import Polyquery.Catalog.Warnings
import Polyquery.CommandLine.Arguments
import Polyquery.CommandLine.Outcome
import Polyquery.CommandLine.Run
import Polyquery.Conflict.Analysis
import Polyquery.Conflict.Extraction
import Polyquery.Conflict.Format
import Polyquery.Conflict.Rules
import Polyquery.Decimal.Binary64
import Polyquery.Decimal.Shortest
import Polyquery.Distinct
import Polyquery.Engine.Basic
import Polyquery.Engine.Config
import Polyquery.Files.Fault
import Polyquery.Files.Path
import Polyquery.Files.Stream
import Polyquery.Files.Tree
import Polyquery.Gzip
import Polyquery.Gzip.Bits
import Polyquery.Gzip.Checksum
import Polyquery.Gzip.CodeTree
import Polyquery.Gzip.Inflate
import Polyquery.Json.Basic
import Polyquery.Json.Decoder
import Polyquery.Json.Fault
import Polyquery.Json.Mark
import Polyquery.Json.Numeral
import Polyquery.Json.Outline
import Polyquery.Json.Quotation
import Polyquery.Json.Symbol
import Polyquery.Language
import Polyquery.Language.Map
import Polyquery.Language.Set
import Polyquery.Lexicon.Basic
import Polyquery.Lexicon.Bundled
import Polyquery.Lexicon.Detection
import Polyquery.Lexicon.Document
import Polyquery.Lexicon.Format
import Polyquery.Lexicon.Storage
import Polyquery.Lexicon.Translation
import Polyquery.Main
import Polyquery.Proofs.Lexicon.Bundled
import Polyquery.Proofs.Lexicon.Concepts
import Polyquery.Proofs.Lexicon.Rendering
import Polyquery.Proofs.Lexicon.Resolution
import Polyquery.Proofs.Lexicon.Segmentation
import Polyquery.Proofs.Query.Alternatives
import Polyquery.Proofs.Query.Kinds
import Polyquery.Proofs.Query.Leaves
import Polyquery.Proofs.Query.Machine
import Polyquery.Proofs.Query.Parsing
import Polyquery.Proofs.Query.Pieces
import Polyquery.Proofs.Query.Segments
import Polyquery.Proofs.Query.Tokens
import Polyquery.Proofs.Text.Folding
import Polyquery.Proofs.Text.Runs
import Polyquery.Proofs.Text.Trimming
import Polyquery.Proofs.Unicode.Tables
import Polyquery.Query.Basic
import Polyquery.Query.Check
import Polyquery.Query.Operator
import Polyquery.Query.Parser
import Polyquery.Query.Piece
import Polyquery.Query.Segment
import Polyquery.Query.Token
import Polyquery.TermSet
import Polyquery.Text
import Polyquery.Text.Escaped
import Polyquery.Text.Fold
import Polyquery.Text.Trim
import Polyquery.Text.Utf8
import Polyquery.Unicode.Blank
import Polyquery.Unicode.CaseSpan
import Polyquery.Unicode.Cased
import Polyquery.Unicode.CombiningClass
import Polyquery.Unicode.Decomposition
import Polyquery.Unicode.Decomposition.Table
import Polyquery.Unicode.Interval
import Polyquery.Unicode.Letter
import Polyquery.Unicode.LowerCase
import Polyquery.Unicode.SearchTree
import Polyquery.Unicode.Unprintable
import Polyquery.Unicode.UpperCase
import Polyquery.Proofs.Lexicon.RoundTrip
import Polyquery.Proofs.Lexicon.Detection
import Polyquery.Proofs.Conflict.Extraction
import Polyquery.Proofs.Query.Nesting
import Polyquery.Proofs.Query.Terms
import Polyquery.Proofs.Query.Rendering
import Polyquery.Proofs.Conflict.Analysis
import Polyquery.Proofs.Engine.Detection
import Polyquery.Proofs.Text.UpperCase
import Polyquery.Proofs.Lexicon.Tables
import Polyquery.Proofs.Lexicon.Loading
import Polyquery.Proofs.Lexicon.Saving
import Polyquery.Proofs.Lexicon.Operators
import Polyquery.Proofs.Lexicon.Composition
import Polyquery.Proofs.Lexicon.Warnings
import Polyquery.Proofs.Text.Letters
import Polyquery.Proofs.Query.Acceptance
import Polyquery.Proofs.Conflict.NormalForm
import Polyquery.Proofs.Lexicon.Verdict
import Polyquery.Proofs.Query.Refusal
import Polyquery.Proofs.Query.Marks
import Polyquery.Proofs.Query.Margins
import Polyquery.Proofs.Json.Scalars
import Polyquery.Proofs.Json.Marks
import Polyquery.Proofs.Json.Outlines
import Polyquery.Proofs.Json.Decoding
import Polyquery.Proofs.Lexicon.Format
import Polyquery.Proofs.Engine.Format
import Polyquery.Proofs.Gzip
import Polyquery.Proofs.Files.Path
import Polyquery.Proofs.Files.Tree
import Polyquery.Proofs.Files.Changes
import Polyquery.Proofs.Lexicon.Storage
import Polyquery.Proofs.Query.Faults
import Polyquery.Proofs.Distinct
import Polyquery.Proofs.Conflict.Rearrangement
import Polyquery.Proofs.Conflict.Repetition
import Polyquery.Proofs.Text.Context
import Polyquery.Proofs.Text.Capitals
import Polyquery.Proofs.Text.LowerKey
import Polyquery.Proofs.Text.SmallLetters
import Polyquery.Proofs.Text.UpperKey
import Polyquery.Proofs.Lexicon.Case
import Polyquery.Proofs.Lexicon.Search
import Polyquery.Proofs.Query.Linear
import Polyquery.Proofs.Text.NormalForm
import Polyquery.Proofs.Text.Slices
import Polyquery.Proofs.Query.Spelling
import Polyquery.Proofs.Query.Reader
import Polyquery.Proofs.Query.Replay
import Polyquery.Proofs.Query.Split
import Polyquery.Proofs.Query.Walk
import Polyquery.Proofs.Lexicon.Translator
