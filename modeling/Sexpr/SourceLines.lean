/-! # The lines of a text

A line runs up to a newline, and a carriage return directly before that newline
belongs to the line's end as well. A text that ends with a newline has no empty
line after it; a last line without a newline keeps every character it has.
-/

namespace Sexpr.SourceLines

/-- Put one character in front of a text already cut into lines with their
    ends. Only a newline starts a new line behind itself. -/
def prepend (c : Char) (lines : List (List Char)) : List (List Char) :=
  match lines with
  | [] => [[c]]
  | line :: rest => if c = '\n' then [c] :: line :: rest else (c :: line) :: rest

/-- The lines of a text, each with the newline that ends it. -/
def withEnds (text : List Char) : List (List Char) :=
  text.foldr prepend []

/-- A line without the newline that ends it, nor one carriage return directly
    before that newline. Without a newline there is no end to take off. -/
def withoutEnd (line : List Char) : List Char :=
  match line.reverse with
  | '\n' :: '\r' :: body => body.reverse
  | '\n' :: body => body.reverse
  | _ => line

def ofText (text : List Char) : List (List Char) :=
  (withEnds text).map withoutEnd

/-- The line of this number, counted from zero; past the last one it is empty. -/
def nth (text : List Char) (i : Nat) : List Char :=
  (ofText text)[i]?.getD []

@[simp] theorem withEnds_nil : withEnds [] = [] := rfl

@[simp] theorem withEnds_cons (c : Char) (cs : List Char) :
    withEnds (c :: cs) = prepend c (withEnds cs) := rfl

/-- Cutting a text into lines loses nothing. -/
theorem flatten_withEnds (text : List Char) : (withEnds text).flatten = text := by
  induction text with
  | nil => rfl
  | cons c cs ih =>
      rw [withEnds_cons, prepend.eq_def]
      cases h : withEnds cs with
      | nil => simp_all
      | cons line rest => simp only; split <;> simp_all

end Sexpr.SourceLines
