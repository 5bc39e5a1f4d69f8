/-! # Positions in a text

A position is a line and a column, both counted from zero in characters. It
moves over one character at a time, and a newline is the last character of its
own line. Offsets counted from the end are resolved against a length here too.
-/

namespace Sexpr

/-- A place in a text: how many lines lie above it, and how many characters
    stand before it on its own line. -/
structure Pos where
  line : Nat
  col : Nat
  deriving Repr, DecidableEq, Inhabited

namespace Pos

def start : Pos := ⟨0, 0⟩

/-- The place of the character that follows `c`, when `c` stands at `p`. -/
def after (p : Pos) (c : Char) : Pos :=
  if c = '\n' then ⟨p.line + 1, 0⟩ else ⟨p.line, p.col + 1⟩

/-- The place behind a run of characters whose first one stands at `p`. -/
def afterAll (p : Pos) (cs : List Char) : Pos :=
  cs.foldl after p

@[simp] theorem afterAll_nil (p : Pos) : p.afterAll [] = p := rfl

@[simp] theorem afterAll_cons (p : Pos) (c : Char) (cs : List Char) :
    p.afterAll (c :: cs) = (p.after c).afterAll cs := rfl

theorem afterAll_append (p : Pos) (cs ds : List Char) :
    p.afterAll (cs ++ ds) = (p.afterAll cs).afterAll ds :=
  List.foldl_append

/-- People count lines and columns from one. -/
def render (p : Pos) : String :=
  toString (p.line + 1) ++ ":" ++ toString (p.col + 1)

end Pos

/-- The offset itself, unless it is negative: then it counts back from `length`,
    and one that reaches before the start means the start. -/
def resolveOffset (offset : Int) (length : Nat) : Nat :=
  if offset < 0 then length - offset.natAbs else offset.toNat

end Sexpr
