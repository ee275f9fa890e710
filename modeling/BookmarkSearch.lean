import BookmarkSearch.Bookmarks.File
import BookmarkSearch.Bookmarks.Tree
import BookmarkSearch.CommandLine.Arguments
import BookmarkSearch.CommandLine.Files
import BookmarkSearch.CommandLine.Invocation
import BookmarkSearch.CommandLine.Run
import BookmarkSearch.Json.Number
import BookmarkSearch.Json.Reader
import BookmarkSearch.Json.Value
import BookmarkSearch.Main
import BookmarkSearch.Proofs.Bookmarks.Forms
import BookmarkSearch.Proofs.Bookmarks.Losses
import BookmarkSearch.Proofs.Bookmarks.Shapes
import BookmarkSearch.Proofs.CommandLine.Asking
import BookmarkSearch.Proofs.CommandLine.Endings
import BookmarkSearch.Proofs.CommandLine.Given
import BookmarkSearch.Proofs.CommandLine.Repetition
import BookmarkSearch.Proofs.Json.Collapse
import BookmarkSearch.Proofs.Json.Grammar
import BookmarkSearch.Proofs.Json.Reading
import BookmarkSearch.Proofs.Json.Scalars
import BookmarkSearch.Proofs.Query.Automaton
import BookmarkSearch.Proofs.Query.Brackets
import BookmarkSearch.Proofs.Query.Composition
import BookmarkSearch.Proofs.Query.Depth
import BookmarkSearch.Proofs.Query.Descent
import BookmarkSearch.Proofs.Query.Fates
import BookmarkSearch.Proofs.Query.Flattening
import BookmarkSearch.Proofs.Query.Grammar
import BookmarkSearch.Proofs.Query.Joints
import BookmarkSearch.Proofs.Query.Lexemes
import BookmarkSearch.Proofs.Query.Neutral
import BookmarkSearch.Proofs.Query.Offsets
import BookmarkSearch.Proofs.Query.Outline
import BookmarkSearch.Proofs.Query.Parity
import BookmarkSearch.Proofs.Query.Polarity
import BookmarkSearch.Proofs.Query.Readings
import BookmarkSearch.Proofs.Query.Recovery
import BookmarkSearch.Proofs.Query.Rereading
import BookmarkSearch.Proofs.Query.Splitting
import BookmarkSearch.Proofs.Query.Sweep
import BookmarkSearch.Proofs.Query.Terms
import BookmarkSearch.Proofs.Query.Writing
import BookmarkSearch.Proofs.Regex.Words
import BookmarkSearch.Proofs.Saved.Codec
import BookmarkSearch.Proofs.Saved.Damage
import BookmarkSearch.Proofs.Saved.Decoding
import BookmarkSearch.Proofs.Saved.Numbering
import BookmarkSearch.Proofs.Saved.Operations
import BookmarkSearch.Proofs.Saved.Persistence
import BookmarkSearch.Proofs.Saved.Retrieval
import BookmarkSearch.Proofs.Saved.Scans
import BookmarkSearch.Proofs.Saved.Shelf
import BookmarkSearch.Proofs.Saved.Simulation
import BookmarkSearch.Proofs.Saved.Truncation
import BookmarkSearch.Proofs.Search.Fields
import BookmarkSearch.Proofs.Search.Markers
import BookmarkSearch.Proofs.Search.Phrase
import BookmarkSearch.Proofs.Search.PlainWords
import BookmarkSearch.Proofs.Search.Recased
import BookmarkSearch.Proofs.Search.Scan
import BookmarkSearch.Proofs.Search.Tags
import BookmarkSearch.Proofs.Search.Warnings
import BookmarkSearch.Proofs.Settings.Reloading
import BookmarkSearch.Proofs.Text.Capitals
import BookmarkSearch.Proofs.Text.Digits
import BookmarkSearch.Proofs.Text.Folding
import BookmarkSearch.Proofs.Text.Normal
import BookmarkSearch.Proofs.Text.Recased
import BookmarkSearch.Proofs.Toml.Escapes
import BookmarkSearch.Proofs.Toml.Lines
import BookmarkSearch.Proofs.Toml.Quoted
import BookmarkSearch.Proofs.Toml.Values
import BookmarkSearch.Proofs.Unicode.Tables
import BookmarkSearch.Query.Expression
import BookmarkSearch.Query.Lexer
import BookmarkSearch.Query.Parser
import BookmarkSearch.Query.QueryText
import BookmarkSearch.Query.Term
import BookmarkSearch.Query.Token
import BookmarkSearch.Regex.Bracket
import BookmarkSearch.Regex.Cost
import BookmarkSearch.Regex.Cursor
import BookmarkSearch.Regex.Escape
import BookmarkSearch.Regex.Pattern
import BookmarkSearch.Regex.Reader
import BookmarkSearch.Saved.Database
import BookmarkSearch.Saved.Number
import BookmarkSearch.Saved.Record
import BookmarkSearch.Saved.Store
import BookmarkSearch.Search.Basic
import BookmarkSearch.Search.Context
import BookmarkSearch.Search.Matcher
import BookmarkSearch.Search.Outcome
import BookmarkSearch.Search.Prepared
import BookmarkSearch.Settings.Basic
import BookmarkSearch.Settings.File
import BookmarkSearch.Text.Basic
import BookmarkSearch.Text.Normal
import BookmarkSearch.Text.Quoted
import BookmarkSearch.Toml.Document
import BookmarkSearch.Toml.Quoted
import BookmarkSearch.Toml.Reader
import BookmarkSearch.Toml.Scalar
import BookmarkSearch.Unicode.Age
import BookmarkSearch.Unicode.Alphanumeric
import BookmarkSearch.Unicode.BinaryProperty
import BookmarkSearch.Unicode.Blank
import BookmarkSearch.Unicode.CaseClosure
import BookmarkSearch.Unicode.Category
import BookmarkSearch.Unicode.CodeSet
import BookmarkSearch.Unicode.Decomposition
import BookmarkSearch.Unicode.Decomposition.Table
import BookmarkSearch.Unicode.LetterCase
import BookmarkSearch.Unicode.Mark
import BookmarkSearch.Unicode.NamedSet
import BookmarkSearch.Unicode.PlainLetter
import BookmarkSearch.Unicode.Property
import BookmarkSearch.Unicode.Script
import BookmarkSearch.Unicode.ScriptExtension
import BookmarkSearch.Unicode.Segmentation
