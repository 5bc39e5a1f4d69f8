import Sexpr.Pos
import Sexpr.SourceLines

/-! # Messages that show the place they are about

A diagnostic is a message, the text it is about, and a run of characters in that
text: the run ends at a position and reaches back from it. It is shown with its
place, above the line of the text and the marks, for instance

    line 3:26: invalid integer literal for base 16: '0xxff'
        (def 'test-const 0xxff)
                         ^^^^^

The message and the name of the file are shown as they are: a newline in one of
them begins one more line.
-/

namespace Sexpr

/-- A message about the `markSize` characters of `source` that end at `pos`. -/
structure Diagnostic where
  message : String
  source : String
  pos : Pos
  markSize : Nat
  fileName : Option String
  deriving Repr, DecidableEq

namespace Diagnostic

/-- A diagnostic at a line and a column that may be counted from the end. The
    column is resolved against the line that the line offset stands for. -/
def atOffsets (message source : String) (line col : Int) (markSize : Nat)
    (fileName : Option String) : Diagnostic :=
  let lineNumber := resolveOffset line (SourceLines.ofText source.toList).length
  let colNumber := resolveOffset col (SourceLines.nth source.toList lineNumber).length
  ⟨message, source, ⟨lineNumber, colNumber⟩, markSize, fileName⟩

def sourceLine (d : Diagnostic) : String :=
  String.ofList (SourceLines.nth d.source.toList d.pos.line)

def repeated (c : Char) (n : Nat) : String :=
  String.ofList (List.replicate n c)

/-- How the message is introduced: by the name of the file, or else as a line. -/
def heading (d : Diagnostic) : String :=
  match d.fileName with
  | some name => name ++ ":"
  | none => "line "

/-- The carets under the marked run. A mark that would reach back beyond the
    first column starts there. -/
def marks (d : Diagnostic) : String :=
  repeated ' ' (d.pos.col + 1 - d.markSize) ++ repeated '^' d.markSize

/-- The message with its place, the line of the text, and the marks below it. -/
def render (d : Diagnostic) : String :=
  d.heading ++ d.pos.render ++ ": " ++ d.message ++ "\n" ++ d.sourceLine ++ "\n" ++ d.marks

end Diagnostic

end Sexpr
