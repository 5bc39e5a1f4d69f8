import Sexpr.Fault
import Sexpr.Frames
import Sexpr.Literal
import Sexpr.Settings
import Sexpr.Word

/-! # Building trees from characters

A machine takes the characters of a text one at a time. It holds the lists that
are open, innermost first, and a mode that says what the next character is taken
for. The letters of a bare word and the text of a string literal are collected in
a buffer each, which has to be emptied when its token ends. Letters and items run
from the newest to the oldest. A machine has no notion of position: a fault is
only a cause.
-/

namespace Sexpr

/-- The parts of a text that treat characters differently. -/
inductive Region where
  /-- Outside comments and string literals. -/
  | plain
  | comment
  | literal
  /-- In a string literal, right behind a backslash. -/
  | escape
  deriving Repr, DecidableEq

/-- What has been read so far. -/
structure Machine where
  /-- The part of the text that the next character is in. -/
  mode : Region
  /-- The lists around the innermost open one. -/
  frames : Frames
  /-- The items of the innermost open list. -/
  items : List Tree
  /-- The letters of the bare word in progress. -/
  word : List Char
  /-- The text so far of the string literal in progress. -/
  literal : List Char
  deriving Repr, DecidableEq

namespace Machine

/-- Nothing read, and both buffers empty. -/
def start : Machine := ⟨.plain, .empty, [], [], []⟩

/-- Make an item of the word in its buffer, if there is one. -/
def endWord (m : Machine) : Except Fault Machine :=
  if m.word.isEmpty then .ok m
  else
    match Word.ofChars m.word.reverse with
    | .integer n => .ok { m with items := .integer n :: m.items, word := [] }
    | .symbol =>
        .ok { m with items := .symbol (String.ofList m.word.reverse) :: m.items, word := [] }
    | .malformed radix => .error (.malformedInteger radix (String.ofList m.word.reverse))

/-- Refuse one more list inside as many as may be open. -/
def checkDepth (settings : Settings) (frames : Frames) : Except Fault Unit :=
  match settings.maxDepth with
  | some limit => if frames.count < limit then .ok () else .error (.nestingTooDeep limit)
  | none => .ok ()

/-- Begin a list inside the innermost one. -/
def openList (settings : Settings) (m : Machine) : Except Fault Machine := do
  checkDepth settings m.frames
  .ok { m with frames := m.frames.push m.items, items := [] }

/-- Make an item of the innermost list. -/
def closeList (m : Machine) : Except Fault Machine := do
  let m ← m.endWord
  match m.frames.pop? with
  | some (outer, frames) =>
      .ok { m with frames := frames, items := .list m.items.reverse :: outer }
  | none => .error .unexpectedClosingParen

/-- The text of a string literal behind a backslash and `c`. A pair that is no
    escape stands for its two characters. -/
def escape (settings : Settings) (body : List Char) (c : Char) : Except Fault (List Char) :=
  match Literal.escaped? c with
  | some meant => .ok (meant :: body)
  | none =>
      if settings.strictEscapes then .error (.invalidEscapedChar c)
      else .ok (c :: '\\' :: body)

/-- Take a character outside comments and string literals. -/
def feedPlain (settings : Settings) (m : Machine) : Char → Except Fault Machine
  | ';' => do
      let m ← m.endWord
      .ok { m with mode := .comment }
  | '(' => do
      let m ← m.endWord
      m.openList settings
  | ')' => m.closeList
  | ' ' | '\t' | '\n' => m.endWord
  | '"' => do
      let m ← m.endWord
      .ok { m with mode := .literal }
  | c => .ok { m with word := c :: m.word }

/-- Take a character in a string literal. -/
def feedLiteral (m : Machine) : Char → Machine
  | '\\' => { m with mode := .escape }
  | '"' =>
      { m with
        mode := .plain, literal := []
        items := .string (String.ofList m.literal.reverse) :: m.items }
  | c => { m with literal := c :: m.literal }

def feed (settings : Settings) (m : Machine) (c : Char) : Except Fault Machine :=
  match m.mode with
  | .comment => .ok (if c = '\n' then { m with mode := .plain } else m)
  | .plain => m.feedPlain settings c
  | .literal => .ok (m.feedLiteral c)
  | .escape => do
      let literal ← escape settings m.literal c
      .ok { m with mode := .literal, literal := literal }

/-- Take all characters of a text. A fault comes with the characters behind the
    one it was found at. -/
def run (settings : Settings) : Machine → List Char → Except (Fault × List Char) Machine
  | m, [] => .ok m
  | m, c :: rest =>
      match m.feed settings c with
      | .ok m => run settings m rest
      | .error fault => .error (fault, rest)

/-- The tree of the whole text, when it ends here: the list of its items. -/
def finish (m : Machine) : Except Fault Tree :=
  match m.mode with
  | .literal | .escape => .error .unterminatedString
  | .plain | .comment =>
      if m.word.isEmpty && m.frames.lists.isEmpty then .ok (.list m.items.reverse)
      else .error .unexpectedEnd

end Machine

end Sexpr
