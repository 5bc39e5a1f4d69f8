import Sexpr.Proofs.Columns
import Sexpr.Proofs.Regions

/-! # The place of an end that comes too early

Where a text ends too early is found by counting back, over lines that are cut from the
whole text. It is the place that counting forward gives the last character of the text,
the end of its last line apart. If nothing else stands on that line, it is the place
where the line begins.
-/

namespace Sexpr

namespace SourceLines

/-! ## The last line of a text -/

theorem exists_lastLine {text : List Char} (nonempty : text ≠ []) :
    ∃ lines line, text = lines ++ line ∧ (lines = [] ∨ lines.getLast? = some '\n') ∧
      line ≠ [] ∧ '\n' ∉ line.dropLast := by
  obtain ⟨body, c, rfl⟩ := List.eq_nil_or_concat' text |>.resolve_left nonempty
  obtain ⟨lines, beginning, rfl, whole, single⟩ := Pos.exists_lines body
  exact ⟨lines, beginning ++ [c], by simp, whole, by simp, by simpa using single⟩

variable {lines line : List Char}

theorem withEnds_lines_append (whole : lines = [] ∨ lines.getLast? = some '\n')
    (nonempty : line ≠ []) (single : '\n' ∉ line.dropLast) :
    ∃ above, withEnds (lines ++ line) = above ++ [line] ∧ above.length = lines.count '\n' := by
  obtain ⟨body, c, rfl⟩ := List.eq_nil_or_concat' line |>.resolve_left nonempty
  rw [List.dropLast_concat] at single
  obtain ⟨above, beginning, cut, same, place⟩ :=
    withEnds_append (rfl : withEnds [c] = [[c]]) (lines ++ body)
  rw [Pos.afterAll_lines_append whole single, Pos.mk.injEq] at place
  obtain ⟨-, rfl⟩ := List.append_inj' same place.2
  refine ⟨above, ?_, place.1.symm⟩
  rw [← List.append_assoc]
  exact cut

theorem withoutEnd_lines_append (whole : lines = [] ∨ lines.getLast? = some '\n')
    (nonempty : line ≠ []) : withoutEnd (lines ++ line) = lines ++ withoutEnd line := by
  by_cases shown : withoutEnd line = []
  · rw [shown, List.append_nil]
    rcases eq_of_withoutEnd_eq_nil shown with rfl | rfl | rfl
    · exact absurd rfl nonempty
    · apply withoutEnd_newline
      rcases whole with rfl | last
      · simp
      · simp [last]
    · exact withoutEnd_crlf lines
  · exact withoutEnd_append shown lines

theorem length_withoutEnd_le (line : List Char) : (withoutEnd line).length ≤ line.length := by
  rcases line_cases line with ⟨body, rfl⟩ | ⟨body, rfl, last⟩ | last
  · simp [withoutEnd_crlf]
  · simp [withoutEnd_newline last]
  · rw [withoutEnd_of_ne last]

/-- Counting the lines of a text and the characters of the last one leads to the last
    character behind the last newline, once the end of the text is taken off. -/
theorem lastPlace_eq (text : List Char) :
    lastPlace text =
      ⟨(withoutEnd text).count '\n', (openLine (withoutEnd text)).length - 1⟩ := by
  by_cases nonempty : text = []
  · subst nonempty
    rfl
  · obtain ⟨lines, line, rfl, whole, nonempty, single⟩ := exists_lastLine nonempty
    obtain ⟨above, cut, size⟩ := withEnds_lines_append whole nonempty single
    have inside := newline_not_mem_withoutEnd single
    rw [lastPlace_of_withEnds cut, withoutEnd_lines_append whole nonempty,
      openLine_append whole inside, List.count_append, List.count_eq_zero_of_not_mem inside, size,
      Nat.add_zero]

theorem exists_lastPlace_eq_afterAll {text : List Char} (nonempty : text ≠ []) :
    ∃ i < text.length, lastPlace text = Pos.start.afterAll (text.take i) := by
  obtain ⟨lines, line, rfl, whole, nonempty, single⟩ := exists_lastLine nonempty
  obtain ⟨above, cut, size⟩ := withEnds_lines_append whole nonempty single
  have shorter := length_withoutEnd_le line
  have some := List.length_pos_iff.mpr nonempty
  let col := (withoutEnd line).length - 1
  have inside : col ≤ line.length - 1 := Nat.sub_le_sub_right shorter 1
  have beginning : '\n' ∉ line.take col := by
    intro newline
    apply single
    rw [List.dropLast_eq_take]
    exact (List.take_prefix_take_left inside).mem newline
  refine ⟨lines.length + col, ?_, ?_⟩
  · rw [List.length_append]
    omega
  · rw [lastPlace_of_withEnds cut, List.take_length_add_append,
      Pos.afterAll_lines_append whole beginning, List.length_take, size, Nat.min_eq_left (by omega)]

theorem afterAll_dropLast {text : List Char} (more : openLine text ≠ []) :
    Pos.start.afterAll text.dropLast = ⟨text.count '\n', (openLine text).length - 1⟩ := by
  obtain ⟨lines, beginning, rfl, whole, single⟩ := Pos.exists_lines text
  rw [openLine_append whole single] at more ⊢
  have shorter : '\n' ∉ beginning.dropLast := fun newline => single (List.dropLast_subset _ newline)
  rw [List.dropLast_append_of_ne_nil more, Pos.afterAll_lines_append whole shorter,
    List.length_dropLast, List.count_append, List.count_eq_zero_of_not_mem single, Nat.add_zero]

end SourceLines

open SourceLines

/-- A text that ends too early has a last character, apart from the end of its last line,
    and its error marks this character. If there is none on that line, the error marks the
    first character of the line. It is found inside a string literal exactly if the text
    ends in one, whatever lists are open. -/
theorem parseWith_error_atEnd {settings : Settings} {text : String} {name : Option String}
    {e : SyntaxError} (failed : parseWith settings (.text text) name = .error (.syntactic e))
    (early : e.fault = .unterminatedString ∨ e.fault = .unexpectedEnd) :
    let shown := withoutEnd text.toList
    text ≠ "" ∧ e.markSize = 1 ∧
      (openLine shown ≠ [] → e.pos = Pos.start.afterAll shown.dropLast) ∧
      (openLine shown = [] → e.pos = ⟨shown.count '\n', 0⟩) ∧
      (∃ i < text.length, e.pos = Pos.start.afterAll (text.toList.take i)) ∧
      (e.fault = .unterminatedString ↔
        Region.atEnd text.toList = .literal ∨ Region.atEnd text.toList = .escape) := by
  intro shown
  have early : e.fault.atEnd = true := by
    rcases early with fault | fault <;> rw [fault] <;> rfl
  rw [parseWith_text_eq_error_iff] at failed
  have pos := Cursor.pos_of_error_atEnd failed early
  obtain ⟨r, run, ending⟩ := Cursor.finish_of_error failed early
  rw [Cursor.source_ofText] at pos
  rw [Cursor.rest_ofText] at run
  have nonempty : text ≠ "" := by
    rintro rfl
    cases failed
  refine ⟨nonempty, ?_, ?_, ?_, ?_, ?_⟩
  · rw [Cursor.markSize_of_error failed, Fault.width_of_atEnd early]
  · intro more
    rw [pos, lastPlace_eq, afterAll_dropLast more]
  · intro none
    rw [pos, lastPlace_eq, none]
    rfl
  · rw [pos, ← String.length_toList]
    exact exists_lastPlace_eq_afterAll (by simpa using nonempty)
  · rw [Reader.region_of_run run, ← Reader.finish_eq_unterminatedString_iff, ending,
      Except.error.injEq]

theorem parseWith_error_atEnd_crlf :
    ∃ e, parseWith .strict (.text "(\"b\n\r\n") none = .error (.syntactic e) ∧
      e.fault = .unterminatedString ∧ openLine (withoutEnd "(\"b\n\r\n".toList) = [] ∧
      e.pos = ⟨1, 0⟩ ∧ e.markSize = 1 := by
  obtain ⟨e, failed, fault⟩ :
      ∃ e, parseWith .strict (.text "(\"b\n\r\n") none = .error (.syntactic e) ∧
        e.fault = .unterminatedString := ⟨_, rfl, rfl⟩
  have none : openLine (withoutEnd "(\"b\n\r\n".toList) = [] := by decide
  obtain ⟨-, size, -, lineStart, -⟩ := parseWith_error_atEnd failed (.inl fault)
  exact ⟨e, failed, fault, none, lineStart none, size⟩

end Sexpr
