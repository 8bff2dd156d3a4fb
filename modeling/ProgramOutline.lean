import ProgramOutline.Ascending
import ProgramOutline.Body
import ProgramOutline.Command.Arguments
import ProgramOutline.Command.Run
import ProgramOutline.Config
import ProgramOutline.Data.Basic
import ProgramOutline.Digest.Md5
import ProgramOutline.Extract
import ProgramOutline.Files.Config
import ProgramOutline.Files.Path
import ProgramOutline.Files.Tree
import ProgramOutline.Header
import ProgramOutline.Json.Reader
import ProgramOutline.Json.Writer
import ProgramOutline.Main
import ProgramOutline.Outline
import ProgramOutline.Parameters
import ProgramOutline.Proofs.Ascending
import ProgramOutline.Proofs.BodyEnds
import ProgramOutline.Proofs.BrokenRules
import ProgramOutline.Proofs.CaseInvariance
import ProgramOutline.Proofs.Checked.Extract
import ProgramOutline.Proofs.Checked.Parameters
import ProgramOutline.Proofs.CommandFrame
import ProgramOutline.Proofs.Concatenation
import ProgramOutline.Proofs.Data.Lossless
import ProgramOutline.Proofs.DeclaredTypes
import ProgramOutline.Proofs.DefaultHeaders
import ProgramOutline.Proofs.DefaultVariables
import ProgramOutline.Proofs.Excerpts
import ProgramOutline.Proofs.Files.Frame
import ProgramOutline.Proofs.Files.Written
import ProgramOutline.Proofs.Grammar.Header
import ProgramOutline.Proofs.Grammar.LetterCase
import ProgramOutline.Proofs.Grammar.LineEndings
import ProgramOutline.Proofs.Grammar.Locality
import ProgramOutline.Proofs.Grammar.Reading
import ProgramOutline.Proofs.Grammar.Return
import ProgramOutline.Proofs.Grammar.Trees
import ProgramOutline.Proofs.Grammar.Variable
import ProgramOutline.Proofs.HeaderOrder
import ProgramOutline.Proofs.Identity
import ProgramOutline.Proofs.Independence
import ProgramOutline.Proofs.Json.Layout
import ProgramOutline.Proofs.Json.Reading
import ProgramOutline.Proofs.Json.Value
import ProgramOutline.Proofs.JsonRoundTrip
import ProgramOutline.Proofs.LineEndings
import ProgramOutline.Proofs.LineNumbers
import ProgramOutline.Proofs.LineScan
import ProgramOutline.Proofs.LookupAgreement
import ProgramOutline.Proofs.NamedHeaders
import ProgramOutline.Proofs.NamedLookup
import ProgramOutline.Proofs.Navigation
import ProgramOutline.Proofs.OutlineJson
import ProgramOutline.Proofs.OutlineText
import ProgramOutline.Proofs.Ownership
import ProgramOutline.Proofs.ParamTypes
import ProgramOutline.Proofs.ParameterForm
import ProgramOutline.Proofs.ParameterLists
import ProgramOutline.Proofs.Qualifiers
import ProgramOutline.Proofs.Regex.Chart
import ProgramOutline.Proofs.Regex.Cursor
import ProgramOutline.Proofs.Regex.Exploration
import ProgramOutline.Proofs.Regex.Iteration
import ProgramOutline.Proofs.Regex.Language
import ProgramOutline.Proofs.Regex.LineMatches
import ProgramOutline.Proofs.Regex.Marks
import ProgramOutline.Proofs.Regex.Memory
import ProgramOutline.Proofs.Regex.Needs
import ProgramOutline.Proofs.Regex.Quoting
import ProgramOutline.Proofs.Regex.Reach
import ProgramOutline.Proofs.Regex.Stretch
import ProgramOutline.Proofs.Regex.Succession
import ProgramOutline.Proofs.Regex.TreeChart
import ProgramOutline.Proofs.Regex.Tried
import ProgramOutline.Proofs.Regex.Ways
import ProgramOutline.Proofs.SavedConfig
import ProgramOutline.Proofs.Separation
import ProgramOutline.Proofs.Separator
import ProgramOutline.Proofs.SessionRuns
import ProgramOutline.Proofs.Text.Bytes
import ProgramOutline.Proofs.Text.CarriageReturn
import ProgramOutline.Proofs.Text.Checked
import ProgramOutline.Proofs.Text.Decoding
import ProgramOutline.Proofs.Text.Digits
import ProgramOutline.Proofs.Text.Excerpt
import ProgramOutline.Proofs.Text.Lines
import ProgramOutline.Proofs.Text.Lowercase
import ProgramOutline.Proofs.Text.Marks
import ProgramOutline.Proofs.Text.Offset
import ProgramOutline.Proofs.Text.Pieces
import ProgramOutline.Proofs.Text.Trim
import ProgramOutline.Proofs.Text.Utf8
import ProgramOutline.Proofs.Toml.Document
import ProgramOutline.Proofs.Toml.Quoted
import ProgramOutline.Proofs.Unicode.CaseClasses
import ProgramOutline.Proofs.Unicode.CharSets
import ProgramOutline.Proofs.Unicode.Letters
import ProgramOutline.Proofs.VariableLines
import ProgramOutline.Proofs.VariableLoop
import ProgramOutline.Proofs.WatchCoherence
import ProgramOutline.Proofs.WatchIdentity
import ProgramOutline.Proofs.WatchOutput
import ProgramOutline.Regex.Brackets
import ProgramOutline.Regex.Cursor
import ProgramOutline.Regex.Escape
import ProgramOutline.Regex.Expr
import ProgramOutline.Regex.Flags
import ProgramOutline.Regex.Layout
import ProgramOutline.Regex.LiteralTree
import ProgramOutline.Regex.Look
import ProgramOutline.Regex.Pattern
import ProgramOutline.Regex.Program
import ProgramOutline.Regex.Search
import ProgramOutline.Regex.Tree
import ProgramOutline.Regex.Tried
import ProgramOutline.Rules
import ProgramOutline.Session
import ProgramOutline.Symbol.Basic
import ProgramOutline.Symbol.Data
import ProgramOutline.Text.Blank
import ProgramOutline.Text.Bytes
import ProgramOutline.Text.Case
import ProgramOutline.Text.Decode
import ProgramOutline.Text.Lines
import ProgramOutline.Text.Offset
import ProgramOutline.Text.Pieces
import ProgramOutline.Text.Quoted
import ProgramOutline.Toml.Reader
import ProgramOutline.Toml.Scalar
import ProgramOutline.Toml.Table
import ProgramOutline.Toml.Text
import ProgramOutline.Unicode.Age
import ProgramOutline.Unicode.Break
import ProgramOutline.Unicode.CaseFold
import ProgramOutline.Unicode.Category
import ProgramOutline.Unicode.CharSet
import ProgramOutline.Unicode.Derived
import ProgramOutline.Unicode.Letter
import ProgramOutline.Unicode.Mark
import ProgramOutline.Unicode.NamedTrait
import ProgramOutline.Unicode.Property
import ProgramOutline.Unicode.Recent
import ProgramOutline.Unicode.Script
import ProgramOutline.Unicode.SharedScript
import ProgramOutline.Unicode.Sign
import ProgramOutline.Unicode.Trait
import ProgramOutline.Unicode.Utf8
import ProgramOutline.Unicode.Word
import ProgramOutline.Watch
