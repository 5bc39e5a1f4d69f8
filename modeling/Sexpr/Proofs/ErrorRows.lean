import Sexpr.Proofs.Marks

/-! # How many rows an error has

An error is shown in three rows: its place and its message, the line of the text, and
the carets, for which there is always room. Words and characters of the text are repeated
in the message as they are. A word has no newline in it, but the character behind a
backslash can be one, and it takes the message to a second row.
-/

namespace Sexpr

open Diagnostic

namespace Cursor

variable {settings : Settings} {cur : Cursor} {e : SyntaxError}

theorem message_of_error (failed : (cur.parse settings).1 = .error e) :
    e.diagnostic.message = e.fault.message :=
  congrArg (·.diagnostic.message) (eq_errorAtPos_of_error failed)

theorem fileName_of_error (failed : (cur.parse settings).1 = .error e) :
    e.diagnostic.fileName = cur.fileName :=
  congrArg (·.diagnostic.fileName) (eq_errorAtPos_of_error failed)

theorem newlines_message_of_error (failed : (cur.parse settings).1 = .error e) :
    newlines e.fault.message = if e.fault = .invalidEscapedChar '\n' then 1 else 0 := by
  apply Fault.newlines_message
  intro radix word malformed
  obtain ⟨read, c, rest, -, ⟨r, run, fed⟩, -⟩ := stop_of_error failed (by rw [malformed]; rfl)
  rw [malformed, Reader.feed_eq_error_iff] at fed
  cases fed with
  | malformed =>
      have plain := (Reader.run_endsWithToken run).1
      rw [newlines_eq_zero_iff]
      apply Reader.newline_not_mem_of_plain
      simpa using plain

theorem markSize_le_of_error {text : String} {name : Option String}
    (failed : ((ofText text name).parse settings).1 = .error e) : e.markSize ≤ e.pos.col + 1 := by
  cases failure_of_error failed with
  | ended => exact Nat.le_add_left 1 _
  | @refused read c rest r fault split run refusal =>
      obtain ⟨before, after, marks⟩ :
          ∃ before after, SyntaxError.Marks _ (read ++ c :: rest) before after :=
        errorAtPos_marks run refusal (ofText text name)
      exact marks.reach

end Cursor

theorem Diagnostic.length_rows (d : Diagnostic) : d.rows.length = newlines d.render + 1 :=
  length_splitOn_newline d.render.toList

theorem Fault.message_newline (heading : String) :
    (heading ++ ": " ++ (Fault.invalidEscapedChar '\n').message).toList =
      (heading ++ ": invalid escaped character '").toList ++ '\n' :: ['\''] := by
  have message : ": " ++ (Fault.invalidEscapedChar '\n').message =
      ": invalid escaped character '" ++ "\n'" := by decide
  rw [String.append_assoc, message, ← String.append_assoc, String.toList_append]
  rfl

/-- An error is shown in three rows, with the line of the text as the second one, and with
    nothing but carets below the marked columns in the third. Only where the character that
    makes no escape is a newline, the message is cut by it, and there are four rows. The
    name of the file is taken to have no newline in it. -/
theorem parseWith_error_rows {settings : Settings} {text : String} {name : Option String}
    {e : SyntaxError} (failed : parseWith settings (.text text) name = .error (.syntactic e))
    (single : ∀ file, name = some file → newlines file = 0) :
    let heading := e.diagnostic.heading ++ e.pos.render
    let row := e.diagnostic.sourceLine.toList
    let carets := caretRow (e.pos.col + 1 - e.markSize) e.markSize
    e.markSize ≤ e.pos.col + 1 ∧
      (e.fault ≠ .invalidEscapedChar '\n' →
        newlines e.render = 2 ∧
          e.diagnostic.rows = [(heading ++ ": " ++ e.fault.message).toList, row, carets]) ∧
      (e.fault = .invalidEscapedChar '\n' →
        newlines e.render = 3 ∧
          e.diagnostic.rows =
            [(heading ++ ": invalid escaped character '").toList, ['\''], row, carets]) := by
  intro heading row carets
  rw [parseWith_text_eq_error_iff] at failed
  have introduced : e.diagnostic.introduction = heading ++ ": " ++ e.fault.message := by
    rw [introduction, Cursor.message_of_error failed]
    rfl
  have headed : newlines heading = 0 := by
    have place : newlines heading = newlines (e.diagnostic.fileName.getD "") := newlines_place _
    rw [place, Cursor.fileName_of_error failed]
    cases name with
    | none => simp [newlines, Cursor.ofText]
    | some file => exact single file rfl
  have rows := e.diagnostic.rows_eq_introduction_append
  have count := e.diagnostic.length_rows
  refine ⟨Cursor.markSize_le_of_error failed, ?_, ?_⟩
  · intro other
    have message := Cursor.newlines_message_of_error failed
    rw [if_neg other] at message
    have line : '\n' ∉ (heading ++ ": " ++ e.fault.message).toList := by
      rw [← newlines_eq_zero_iff, newlines_append, newlines_append, headed, message]
      simp [newlines]
    rw [introduced, List.splitOn_eq_singleton line] at rows
    rw [rows] at count
    exact ⟨Nat.succ.inj count.symm, rows⟩
  · intro newline
    have line : '\n' ∉ (heading ++ ": invalid escaped character '").toList := by
      rw [← newlines_eq_zero_iff, newlines_append, headed]
      simp [newlines]
    rw [introduced, newline, Fault.message_newline, List.splitOn_append_cons_self_of_not_mem line,
      List.splitOn_eq_singleton (by decide)] at rows
    rw [rows] at count
    exact ⟨Nat.succ.inj count.symm, rows⟩

theorem parseWith_error_rows_word :
    ∃ e, parseWith .lenient (.text "(a\n 1x\r\n") (some "t.lisp") = .error (.syntactic e) ∧
      newlines "t.lisp" = 0 ∧ e.fault ≠ .invalidEscapedChar '\n' ∧ newlines e.render = 2 ∧
      e.diagnostic.rows[1]? = some " 1x".toList ∧ e.diagnostic.rows[2]? = some (caretRow 1 3) := by
  obtain ⟨e, failed, fault, pos, size, line⟩ :
      ∃ e, parseWith .lenient (.text "(a\n 1x\r\n") (some "t.lisp") = .error (.syntactic e) ∧
        e.fault = .malformedInteger 10 "1x\r" ∧ e.pos = ⟨1, 3⟩ ∧ e.markSize = 3 ∧
        e.diagnostic.sourceLine = " 1x" := ⟨_, rfl, rfl, rfl, rfl, rfl⟩
  have single : newlines "t.lisp" = 0 := by decide
  have word : e.fault ≠ .invalidEscapedChar '\n' := by simp [fault]
  obtain ⟨-, three, -⟩ := parseWith_error_rows failed (by rintro _ ⟨⟩; exact single)
  obtain ⟨newlines, rows⟩ := three word
  rw [pos, size, line] at rows
  exact ⟨e, failed, single, word, newlines, by simp [rows], by simp [rows]⟩

/-- A backslash at the end of a line, inside a literal, has a diagnostic of four rows. -/
theorem newlines_render_ne_two :
    ∃ e, parseWith .strict (.text "(\"a\\\n\")\n") (some "t.lisp") = .error (.syntactic e) ∧
      newlines "t.lisp" = 0 ∧ newlines e.render ≠ 2 ∧
      e.diagnostic.rows[1]? ≠ some e.diagnostic.sourceLine.toList :=
  ⟨_, rfl, by decide, by decide, by decide⟩

end Sexpr
