import Sexpr.SyntaxError

/-! # Reading a text character by character

A cursor hands out the characters of its text one after the other and knows the
position of the one it handed out last. The position moves over a character only
when the next one is asked for, so that an error made right after a character
was handed out is about that character.
-/

namespace Sexpr

/-- A text, and how far it has been handed out. -/
structure Cursor where
  source : String
  fileName : Option String
  /-- The characters not handed out yet. -/
  rest : List Char
  /-- How many bytes of the text lie before them. -/
  offset : Nat
  /-- The position of the character handed out last, or the end of the text. -/
  pos : Pos
  /-- The character that `pos` has not moved over yet. -/
  last : Option Char
  deriving Repr

namespace Cursor

def ofText (text : String) (fileName : Option String) : Cursor :=
  ⟨text, fileName, text.toList, 0, Pos.start, none⟩

/-- The position of the character that will be handed out next. -/
def nextPos (cur : Cursor) : Pos :=
  match cur.last with
  | some c => cur.pos.after c
  | none => cur.pos

/-- Hand out the next character, or nothing at the end of the text. -/
def next (cur : Cursor) : Option Char × Cursor :=
  match cur.rest with
  | [] => (none, { cur with pos := cur.nextPos, last := none })
  | c :: rest =>
      (some c, { cur with
        rest := rest, offset := cur.offset + c.utf8Size, pos := cur.nextPos, last := some c })

/-- Ask for the next character `n` times. -/
def advance : Nat → Cursor → Cursor
  | 0, cur => cur
  | n + 1, cur => advance n cur.next.2

theorem advance_add (m n : Nat) (cur : Cursor) :
    cur.advance (m + n) = (cur.advance m).advance n := by
  induction m generalizing cur with
  | zero => simp [advance]
  | succ m ih => rw [Nat.succ_add]; exact ih cur.next.2

def errorAtPos (cur : Cursor) (fault : Fault) (pos : Pos) (markSize : Nat) : SyntaxError :=
  ⟨fault, fault.message, cur.source, pos, markSize, cur.fileName⟩

def errorHere (cur : Cursor) (fault : Fault) (markSize : Nat) : SyntaxError :=
  cur.errorAtPos fault cur.pos markSize

/-- An error at a line and a column that may be counted from the end. One that
    is not given is the current one. -/
def errorAt (cur : Cursor) (fault : Fault) (line col : Option Int) (markSize : Nat) :
    SyntaxError :=
  ⟨fault, .atOffsets fault.message cur.source (line.getD cur.pos.line) (col.getD cur.pos.col)
    markSize cur.fileName⟩

end Cursor

end Sexpr
