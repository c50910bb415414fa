import ModalEdit.Calculator
import ModalEdit.Command.Apply
import ModalEdit.Command.Basic
import ModalEdit.Command.Parser
import ModalEdit.Command.Pending
import ModalEdit.Command.Prefix
import ModalEdit.CommandLine
import ModalEdit.Config
import ModalEdit.Edit
import ModalEdit.Engine.Basic
import ModalEdit.Engine.Keys
import ModalEdit.Engine.Lines
import ModalEdit.Engine.Modes
import ModalEdit.Engine.Operators
import ModalEdit.Engine.Playback
import ModalEdit.Engine.Steps
import ModalEdit.Engine.Visual
import ModalEdit.Files
import ModalEdit.Interaction
import ModalEdit.Line.Address
import ModalEdit.Line.Basic
import ModalEdit.Line.Search
import ModalEdit.Macro.Document
import ModalEdit.Macro.Expansion
import ModalEdit.Macro.Machine
import ModalEdit.Macro.Reference
import ModalEdit.Macro.Registry
import ModalEdit.Macro.Storage
import ModalEdit.Main
import ModalEdit.Mode
import ModalEdit.Motion.Basic
import ModalEdit.Motion.Word
import ModalEdit.Number.Binary64
import ModalEdit.Number.Shortest
import ModalEdit.Pattern.Basic
import ModalEdit.Pattern.Bracket
import ModalEdit.Pattern.CharSet
import ModalEdit.Pattern.Escape
import ModalEdit.Pattern.Match
import ModalEdit.Pattern.Program
import ModalEdit.Pattern.Reader
import ModalEdit.Pattern.Template
import ModalEdit.Proofs.BlockInsert
import ModalEdit.Proofs.Calculation
import ModalEdit.Proofs.CallLog
import ModalEdit.Proofs.CaseChange
import ModalEdit.Proofs.ChangeWord
import ModalEdit.Proofs.Coherence
import ModalEdit.Proofs.Columns
import ModalEdit.Proofs.CommandCongruence
import ModalEdit.Proofs.CountedInsert
import ModalEdit.Proofs.Counting
import ModalEdit.Proofs.Cursor
import ModalEdit.Proofs.CursorAtRest
import ModalEdit.Proofs.Expansion
import ModalEdit.Proofs.Extraction
import ModalEdit.Proofs.Failing
import ModalEdit.Proofs.Indicator
import ModalEdit.Proofs.JoinRounds
import ModalEdit.Proofs.JoinedLines
import ModalEdit.Proofs.KeyByKey
import ModalEdit.Proofs.KeyNotation
import ModalEdit.Proofs.LineDeletion
import ModalEdit.Proofs.LinePrinting
import ModalEdit.Proofs.Lockstep
import ModalEdit.Proofs.MacroCommands
import ModalEdit.Proofs.MacroNames
import ModalEdit.Proofs.Nesting
import ModalEdit.Proofs.Offsets
import ModalEdit.Proofs.OnClusters
import ModalEdit.Proofs.Outcomes
import ModalEdit.Proofs.PendingCommand
import ModalEdit.Proofs.PutBack
import ModalEdit.Proofs.Readonly
import ModalEdit.Proofs.Recording
import ModalEdit.Proofs.RegisterHistory
import ModalEdit.Proofs.Reissue
import ModalEdit.Proofs.Replacement
import ModalEdit.Proofs.Searching
import ModalEdit.Proofs.SelectionEnds
import ModalEdit.Proofs.Session
import ModalEdit.Proofs.Shifting
import ModalEdit.Proofs.Slices
import ModalEdit.Proofs.Spelling
import ModalEdit.Proofs.Storing
import ModalEdit.Proofs.Stroke
import ModalEdit.Proofs.Substitution
import ModalEdit.Proofs.Termination
import ModalEdit.Proofs.Undoing
import ModalEdit.Proofs.Unfinished
import ModalEdit.Proofs.VisualLines
import ModalEdit.Proofs.WholeLine
import ModalEdit.Proofs.WholeReference
import ModalEdit.Proofs.WordMotions
import ModalEdit.Proofs.WordPlaces
import ModalEdit.Script
import ModalEdit.Shell
import ModalEdit.Span
import ModalEdit.Surface.Basic
import ModalEdit.Surface.Registers
import ModalEdit.Surface.Selection
import ModalEdit.Surface.Workspace
import ModalEdit.Text.Basic
import ModalEdit.Text.Grapheme
import ModalEdit.Text.Lines
import ModalEdit.Text.Table
import ModalEdit.Text.Trim
import ModalEdit.Toml.Field
import ModalEdit.Toml.Reader
import ModalEdit.Toml.Scalar
import ModalEdit.Toml.Token
import ModalEdit.Toml.Value
import ModalEdit.Toml.Writer
import ModalEdit.Unicode.Case
import ModalEdit.Unicode.Category
import ModalEdit.Unicode.Category.Letters
import ModalEdit.Unicode.Category.Marks
import ModalEdit.Unicode.Category.Signs
import ModalEdit.Unicode.Cluster
import ModalEdit.Unicode.CodeSet
import ModalEdit.Unicode.Escape
import ModalEdit.Unicode.Letter
import ModalEdit.Unicode.Script
import ModalEdit.Unicode.Width
