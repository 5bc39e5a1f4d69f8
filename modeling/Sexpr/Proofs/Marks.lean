import Sexpr.Proofs.Rendering
import Sexpr.Proofs.Tokens

/-! # The characters that an error marks

A fault inside the text is about some characters of it: a word, a parenthesis, or a
backslash with the character behind it. The error's place and its mark are counted
from where reading stopped, which is one character too late for a word. They still
lie on exactly these characters, and so do the carets below them.
-/

namespace Sexpr

open SourceLines

namespace Fault

/-- The characters that a fault found inside the text is about. -/
def marked : Fault → List Char
  | .malformedInteger _ text => text.toList
  | .unexpectedClosingParen => [')']
  | .nestingTooDeep _ => ['(']
  | .invalidEscapedChar c => ['\\', c]
  | .unterminatedString | .unexpectedEnd => []

end Fault

/-- The word is malformed in this base, and it is a maximal run of letters between
    what stands on its line before and after it. -/
structure Word.MalformedBetween (radix : Nat) (before word after : List Char) : Prop where
  value : Word.ofChars word = .malformed radix
  letters : ∀ c ∈ word, Word.isDelimiter c = false
  start : ∀ c ∈ before.getLast?, Word.isDelimiter c = true
  stop : ∃ c ∈ after.head?, Word.isDelimiter c = true

/-- The columns that an error marks are those of the characters that its fault is
    about. On their line `before` stands in front of them, and `after` behind. -/
structure SyntaxError.Marks (e : SyntaxError) (text before after : List Char) : Prop where
  line : (withEnds text)[e.pos.line]? = some (before ++ e.fault.marked ++ after)
  size : e.fault.marked.length = e.markSize
  reach : e.markSize ≤ e.pos.col + 1
  column : before.length = e.pos.col + 1 - e.markSize
  word : ∀ radix word, e.fault = .malformedInteger radix word →
    Word.MalformedBetween radix before word.toList after

namespace SyntaxError

theorem Marks.getElem?_sourceLine {e : SyntaxError} {before after : List Char}
    (h : e.Marks e.diagnostic.source.toList before after) {i : Nat} (marked : i < e.markSize) :
    e.diagnostic.sourceLine.toList[before.length + i]? =
      if InLineEnd (before ++ e.fault.marked ++ after) (before.length + i) then none
      else e.fault.marked[i]? := by
  have line : nth e.diagnostic.source.toList e.diagnostic.pos.line = _ := nth_of_withEnds h.line
  have single := newline_not_mem_dropLast (List.mem_of_getElem? h.line)
  have inside : i < e.fault.marked.length := h.size ▸ marked
  rw [Diagnostic.toList_sourceLine, line, getElem?_withoutEnd single, List.append_assoc,
    List.getElem?_append_right (Nat.le_add_right _ _), Nat.add_sub_cancel_left,
    List.getElem?_append_left inside]

theorem Marks.rows {e : SyntaxError} {text before after : List Char}
    (h : e.Marks text before after) (worded : e.diagnostic.message = e.fault.message) :
    ∃ introduction,
      e.diagnostic.rows = introduction ++
        [e.diagnostic.sourceLine.toList, Diagnostic.caretRow before.length e.markSize] ∧
      introduction.length = 1 + newlines (e.diagnostic.fileName.getD "") +
        (if e.fault = .invalidEscapedChar '\n' then 1 else 0) := by
  obtain ⟨introduction, rows, length⟩ := e.diagnostic.rows_eq
  have message : newlines e.diagnostic.message =
      if e.fault = .invalidEscapedChar '\n' then 1 else 0 := by
    rw [worded]
    apply Fault.newlines_message
    intro radix word same
    rw [newlines_eq_zero_iff]
    exact Reader.newline_not_mem_of_plain (h.word radix word same).letters
  rw [message] at length
  exact ⟨introduction, h.column ▸ rows, length⟩

end SyntaxError

namespace Cursor

theorem errorAtPos_marks_last (cur : Cursor) {fault : Fault} (stem : List Char) {c : Char}
    (marked : fault.marked = stem ++ [c]) (line : '\n' ∉ stem)
    (other : ∀ radix word, fault ≠ .malformedInteger radix word) (read rest : List Char) :
    ∃ before after,
      (cur.errorAtPos fault (Pos.start.afterAll (read ++ stem)) (stem.length + 1)).Marks
        (read ++ stem ++ c :: rest) before after := by
  obtain ⟨above, before, after, below, cut, -, place⟩ := withEnds_around read line c rest
  refine ⟨before, after, ?_, ?_, ?_, ?_, fun radix word same => absurd same (other radix word)⟩
  · simp [place, List.append_assoc read, cut, marked]
  · simp [marked]
  · simp [place]
  · simp [place]

/-- Each character at which a reader finds a fault is the last one that the fault is
    about, or else ends the word that it is about. -/
theorem errorAtPos_marks {settings : Settings} {r : Reader} {read rest : List Char} {c : Char}
    {fault : Fault} (run : Reader.start.run settings read = .ok r)
    (refusal : r.Refusal settings c fault) (cur : Cursor) :
    ∃ before after,
      (cur.errorAtPos fault (fault.place (Pos.start.afterAll read)) fault.width).Marks
        (read ++ c :: rest) before after := by
  have ends := Reader.run_endsWithToken run
  cases refusal with
  | tooDeep | unopened =>
      simpa [Fault.place, Fault.width] using
        errorAtPos_marks_last cur [] rfl (by simp) (by simp) read rest
  | escape =>
      obtain ⟨read, rfl⟩ := ends
      exact errorAtPos_marks_last cur ['\\'] rfl (by simp) (by simp) read rest
  | @malformed letters frames items c radix delimiter nonempty value =>
      obtain ⟨plain, read, rfl, start⟩ := ends
      have plain : ∀ c ∈ letters.reverse, Word.isDelimiter c = false := by simpa using plain
      have some : 0 < letters.length := List.length_pos_iff.mpr nonempty
      obtain ⟨above, before, after, below, cut, whole, place⟩ :=
        withEnds_around read (Reader.newline_not_mem_of_plain plain) c rest
      refine ⟨before, c :: after, ?_, ?_, ?_, ?_, ?_⟩
      · simp [Fault.place, Fault.marked, List.append_assoc read, cut, place]
      · simp [Fault.marked, Fault.width]
      · simp only [pos_errorAtPos, markSize_errorAtPos, Fault.place, Fault.width, place,
          String.length_ofList, List.length_reverse]
        omega
      · simp only [pos_errorAtPos, markSize_errorAtPos, Fault.place, Fault.width, place,
          String.length_ofList, List.length_reverse]
        omega
      · intro radix word same
        obtain ⟨rfl, rfl⟩ : _ ∧ _ := by simpa using same
        refine ⟨by simpa using value, by simpa using plain, ?_, c, rfl, delimiter⟩
        intro d last
        apply start d
        rw [whole, List.getLast?_append, Option.mem_def.mp last, Option.some_or, Option.mem_some]

end Cursor

/-- The mark of an error inside the text lies on the characters that the error is
    about. The carets are in the same columns of the last row, below the line of the
    text, which shows these characters, all but those that end the line. This row is
    the third one, unless the name of the file has newlines in it, or the message has
    because the character that makes no escape is one. -/
theorem parseWith_error_marks {settings : Settings} {text : String} {fileName : Option String}
    {e : SyntaxError} (failed : parseWith settings (.text text) fileName = .error (.syntactic e))
    (inside : e.fault.atEnd = false) :
    ∃ before after, e.Marks text.toList before after ∧
      (∃ introduction,
        e.diagnostic.rows = introduction ++
          [e.diagnostic.sourceLine.toList, Diagnostic.caretRow before.length e.markSize] ∧
        introduction.length = 1 + newlines (fileName.getD "") +
          (if e.fault = .invalidEscapedChar '\n' then 1 else 0)) ∧
      ∀ i < e.markSize, e.diagnostic.sourceLine.toList[before.length + i]? =
        if InLineEnd (before ++ e.fault.marked ++ after) (before.length + i) then none
        else e.fault.marked[i]? := by
  obtain ⟨result, stop, parsed, outcome⟩ := Cursor.parse_outcome settings (.ofText text fileName)
  rw [parseWith_text_eq_error_iff, parsed] at failed
  cases outcome with
  | finished run tree => cases failed
  | ended run early =>
      cases failed
      exact absurd (Reader.atEnd_of_finish early) (by simpa using inside)
  | refused split run refusal =>
      cases failed
      obtain ⟨before, after, marks⟩ := Cursor.errorAtPos_marks run refusal (.ofText text fileName)
      rw [← split, Cursor.rest_ofText] at marks
      exact ⟨before, after, marks, marks.rows rfl, fun i => marks.getElem?_sourceLine⟩

theorem parseWith_error_marks_word :
    ∃ e, parseWith .lenient (.text "(a 0xxg)\n") none = .error (.syntactic e) ∧
      e.fault = .malformedInteger 16 "0xxg" ∧
      ∃ before after, e.Marks "(a 0xxg)\n".toList before after ∧ before.length = 3 ∧
        e.diagnostic.rows.getLast? = some (Diagnostic.caretRow 3 4) := by
  obtain ⟨e, failed, fault, pos, size⟩ :
      ∃ e, parseWith .lenient (.text "(a 0xxg)\n") none = .error (.syntactic e) ∧
        e.fault = .malformedInteger 16 "0xxg" ∧ e.pos = ⟨0, 6⟩ ∧ e.markSize = 4 :=
    ⟨_, rfl, rfl, rfl, rfl⟩
  obtain ⟨before, after, marks, ⟨introduction, rows, -⟩, -⟩ :=
    parseWith_error_marks failed (by rw [fault]; rfl)
  have column : before.length = 3 := by
    rw [marks.column, pos, size]
    rfl
  rw [column, size] at rows
  exact ⟨e, failed, fault, before, after, marks, column, by simp [rows]⟩

/-- A message that repeats a newline takes two rows, so that the carets are not in the
    third one. -/
theorem third_row_ne_caretRow :
    ∃ e, parseWith ⟨none, true⟩ (.text "\"\\\n\"") none = .error (.syntactic e) ∧
      e.fault = .invalidEscapedChar '\n' ∧
      e.diagnostic.rows[2]? ≠
        some (Diagnostic.caretRow (e.pos.col + 1 - e.markSize) e.markSize) :=
  ⟨_, rfl, rfl, by decide⟩

end Sexpr
