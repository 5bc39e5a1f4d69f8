import Sexpr.Diagnostic
import Sexpr.Fault

/-! # Faults with their place

A syntax error is a fault together with the diagnostic that shows where in the
text it happened.
-/

namespace Sexpr

/-- A fault and its place in the text. -/
structure SyntaxError where
  fault : Fault
  diagnostic : Diagnostic
  deriving Repr, DecidableEq

namespace SyntaxError

/-- The position that the error is reported at, the last one of the marked run. -/
def pos (e : SyntaxError) : Pos := e.diagnostic.pos

def markSize (e : SyntaxError) : Nat := e.diagnostic.markSize

def render (e : SyntaxError) : String := e.diagnostic.render

end SyntaxError

end Sexpr
