/-! # What the reader allows

A text may be refused for nesting its lists too deep, and for backslash pairs
that mean nothing. Both restrictions can be set apart.
-/

namespace Sexpr

/-- The restrictions that a text is read under. -/
structure Settings where
  /-- How many lists may be open at once; without a limit, any number. -/
  maxDepth : Option Nat
  /-- Refuse a backslash pair that is no escape, where otherwise both of its
      characters are kept. -/
  strictEscapes : Bool
  deriving Repr, DecidableEq

namespace Settings

def lenient : Settings := ⟨none, false⟩

/-- Both restrictions, with a depth that no text written by hand comes near. -/
def strict : Settings := ⟨some 500, true⟩

instance : Inhabited Settings := ⟨lenient⟩

end Settings

end Sexpr
