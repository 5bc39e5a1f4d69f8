import Sexpr.Pos
import Sexpr.SourceLines
import Sexpr.Diagnostic
import Sexpr.Fault
import Sexpr.SyntaxError
import Sexpr.Settings
import Sexpr.Numeral
import Sexpr.Word
import Sexpr.Tree
import Sexpr.Literal
import Sexpr.Tree.Layout
import Sexpr.Tree.Printer
import Sexpr.Tree.Census
import Sexpr.Tree.Readable
import Sexpr.Utf8
import Sexpr.Visible
import Sexpr.Quoted
import Sexpr.InputError
import Sexpr.ByteSource
import Sexpr.Frames
import Sexpr.Cursor
import Sexpr.Machine
import Sexpr.Parse
import Sexpr.Read
import Sexpr.Grammar
import Sexpr.Reader
import Sexpr.Directory
import Sexpr.CommandLine.Arguments
import Sexpr.CommandLine
import Sexpr.Main
import Sexpr.Proofs.Steps
import Sexpr.Proofs.Buffers
import Sexpr.Proofs.Nesting
import Sexpr.Proofs.Acceptance
import Sexpr.Proofs.Numerals
import Sexpr.Proofs.Printing
import Sexpr.Proofs.RoundTrip
import Sexpr.Proofs.Lines
import Sexpr.Proofs.Outcomes
import Sexpr.Proofs.Tokens
import Sexpr.Proofs.Translation
import Sexpr.Proofs.Rendering
import Sexpr.Proofs.Marks
import Sexpr.Proofs.Encodings
import Sexpr.Proofs.Decoding
import Sexpr.Proofs.Context
import Sexpr.Proofs.Concatenation
import Sexpr.Proofs.Restrictions
import Sexpr.Proofs.Completion
import Sexpr.Proofs.Columns
import Sexpr.Proofs.Canonical
import Sexpr.Proofs.Opening
import Sexpr.Proofs.WrittenForms
import Sexpr.Proofs.Tracking
import Sexpr.Proofs.Endings
import Sexpr.Proofs.ErrorRows
import Sexpr.Proofs.Separators
import Sexpr.Proofs.Classification
import Sexpr.Proofs.LiteralSources
import Sexpr.Proofs.Places
import Sexpr.Proofs.Alignment
import Sexpr.Proofs.OpenLists
import Sexpr.Proofs.DepthOption
import Sexpr.Proofs.Counts
import Sexpr.Proofs.Invariant
import Sexpr.Proofs.Turns
