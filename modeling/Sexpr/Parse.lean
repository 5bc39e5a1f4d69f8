import Sexpr.Cursor
import Sexpr.Machine

/-! # Parsing what a cursor has left

The rest of a cursor's text is read as one text. What goes wrong is reported at
its place in the whole text, and the cursor ends up where reading stopped.
-/

namespace Sexpr.Cursor

/-- The error for a fault that was found at the character handed out last, or at
    the end of the text. A malformed word ends one character before the delimiter
    that shows it; an escape has two characters; an end that comes too early is
    shown at the last character of the last line. -/
def locate (cur : Cursor) (fault : Fault) : SyntaxError :=
  match fault with
  | .malformedInteger _ text =>
      cur.errorAtPos fault ⟨cur.pos.line, cur.pos.col - 1⟩ text.length
  | .unexpectedClosingParen | .nestingTooDeep _ => cur.errorHere fault 1
  | .invalidEscapedChar _ => cur.errorHere fault 2
  | .unterminatedString | .unexpectedEnd => cur.errorAt fault (some (-1)) (some (-1)) 1

/-- Read the rest of the text to its end, or up to the first fault. -/
def parse (settings : Settings) (cur : Cursor) : Except SyntaxError Tree × Cursor :=
  match Machine.start.run settings cur.rest with
  | .error (fault, rest) =>
      let stop := cur.advance (cur.rest.length - rest.length)
      (.error (stop.locate fault), stop)
  | .ok m =>
      let stop := cur.advance (cur.rest.length + 1)
      (m.finish.mapError stop.locate, stop)

end Sexpr.Cursor
