import Sexpr.Proofs.Lines
import Sexpr.Proofs.Numerals
import Sexpr.SyntaxError

/-! # The rows of a diagnostic

The line of the text and the carets are always the last two rows of a rendered
diagnostic. The rows above them are the introduction, which is one row unless the
name of the file or the message has a newline in it: neither is escaped.
-/

namespace Sexpr

/-! ## Counting newlines -/

def newlines (text : String) : Nat :=
  text.toList.count '\n'

@[simp] theorem newlines_append (s t : String) : newlines (s ++ t) = newlines s + newlines t := by
  simp [newlines]

theorem newlines_eq_zero_iff {text : String} : newlines text = 0 ↔ '\n' ∉ text.toList :=
  List.count_eq_zero

@[simp] theorem newlines_repr (n : Nat) : newlines n.repr = 0 := by
  rw [newlines_eq_zero_iff]
  intro newline
  have digit := Numeral.isDigit_toDigits n '\n' (by simpa using newline)
  revert digit
  decide

@[simp] theorem newlines_push (text : String) (c : Char) :
    newlines (text.push c) = newlines text + if c = '\n' then 1 else 0 := by
  simp [newlines, List.count_singleton]

theorem length_splitOn_newline (text : List Char) :
    (text.splitOn '\n').length = text.count '\n' + 1 := by
  induction text with
  | nil => rfl
  | cons c text ih =>
      rw [List.splitOn_cons_eq_if_modifyHead, List.count_cons]
      split <;> simp [ih]

namespace Diagnostic

def rows (d : Diagnostic) : List (List Char) :=
  d.render.toList.splitOn '\n'

/-- The row of carets: `gap` columns are left free, and `width` are marked. -/
def caretRow (gap width : Nat) : List Char :=
  List.replicate gap ' ' ++ List.replicate width '^'

theorem newline_not_mem_caretRow (gap width : Nat) : '\n' ∉ caretRow gap width := by
  simp [caretRow]

theorem toList_marks (d : Diagnostic) :
    d.marks.toList = caretRow (d.pos.col + 1 - d.markSize) d.markSize := by
  simp [marks, repeated, caretRow]

theorem toList_sourceLine (d : Diagnostic) :
    d.sourceLine.toList = SourceLines.nth d.source.toList d.pos.line :=
  String.toList_ofList

theorem newlines_place (d : Diagnostic) :
    newlines (d.heading ++ d.pos.render) = newlines (d.fileName.getD "") := by
  have colon : newlines ":" = 0 := by simp [newlines]
  have word : newlines "line " = 0 := by simp [newlines]
  have empty : newlines "" = 0 := by simp [newlines]
  cases name : d.fileName <;> simp [heading, name, Pos.render, colon, word, empty]

/-- What is shown above the line of the text. -/
def introduction (d : Diagnostic) : String :=
  d.heading ++ d.pos.render ++ ": " ++ d.message

theorem newlines_introduction (d : Diagnostic) :
    newlines d.introduction = newlines (d.fileName.getD "") + newlines d.message := by
  have colon : newlines ": " = 0 := by simp [newlines]
  rw [introduction, newlines_append, newlines_append, newlines_place, colon, Nat.add_zero]

theorem rows_eq_introduction_append (d : Diagnostic) :
    d.rows = d.introduction.toList.splitOn '\n' ++
      [d.sourceLine.toList, caretRow (d.pos.col + 1 - d.markSize) d.markSize] := by
  have line : '\n' ∉ d.sourceLine.toList := by
    rw [toList_sourceLine]
    exact SourceLines.newline_not_mem_nth _ _
  have whole : d.render.toList =
      d.introduction.toList ++ '\n' :: (d.sourceLine.toList ++ '\n' :: d.marks.toList) := by
    simp [render, introduction]
  rw [rows, whole, List.splitOn_append_cons_self, List.splitOn_append_cons_self_of_not_mem line,
    toList_marks, List.splitOn_eq_singleton (newline_not_mem_caretRow _ _)]

/-- The rows of a diagnostic: an introduction, the line of the text, and the carets. -/
theorem rows_eq (d : Diagnostic) :
    ∃ introduction,
      d.rows = introduction ++
        [d.sourceLine.toList, caretRow (d.pos.col + 1 - d.markSize) d.markSize] ∧
      introduction.length = 1 + newlines (d.fileName.getD "") + newlines d.message := by
  refine ⟨_, d.rows_eq_introduction_append, ?_⟩
  rw [length_splitOn_newline]
  change newlines d.introduction + 1 = _
  rw [newlines_introduction]
  omega

end Diagnostic

/-- A message is one row, unless the character that makes no escape is a newline. -/
theorem Fault.newlines_message {fault : Fault}
    (plain : ∀ radix text, fault = .malformedInteger radix text → newlines text = 0) :
    newlines fault.message = if fault = .invalidEscapedChar '\n' then 1 else 0 := by
  unfold Fault.message
  cases fault with
  | malformedInteger radix text =>
      have before : newlines "invalid integer literal for base " = 0 := by simp [newlines]
      have between : newlines ": '" = 0 := by simp [newlines]
      have behind : newlines "'" = 0 := by simp [newlines]
      simp [before, between, behind, plain radix text rfl]
  | nestingTooDeep limit =>
      have before : newlines "lists nested deeper than " = 0 := by simp [newlines]
      have behind : newlines " levels" = 0 := by simp [newlines]
      simp [before, behind]
  | invalidEscapedChar c =>
      have before : newlines "invalid escaped character '" = 0 := by simp [newlines]
      have behind : newlines "'" = 0 := by simp [newlines]
      simp [before, behind]
  | unterminatedString | unexpectedEnd | unexpectedClosingParen => simp [newlines]

end Sexpr
