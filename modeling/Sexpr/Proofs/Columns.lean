import Mathlib.Data.List.Induction
import Sexpr.Proofs.Outcomes
import Sexpr.Proofs.Rendering

/-! # Columns in the lines that are shown

A cursor counts its column one character after the other. An error shows a line that
is cut out of the whole text again, without its end. The column is still the one in
which the character stands that the cursor handed out last, and where this character
belongs to the end of the line, or where there is none, it is the end of what is shown.
-/

namespace Sexpr

namespace Pos

theorem exists_lines (cs : List Char) :
    ∃ lines beginning, cs = lines ++ beginning ∧
      (lines = [] ∨ lines.getLast? = some '\n') ∧ '\n' ∉ beginning := by
  induction cs using List.reverseRecOn with
  | nil => exact ⟨[], [], rfl, .inl rfl, by simp⟩
  | append_singleton cs c ih =>
      by_cases newline : c = '\n'
      · subst newline
        exact ⟨cs ++ ['\n'], [], by simp, .inr (by simp), by simp⟩
      · obtain ⟨lines, beginning, rfl, whole, single⟩ := ih
        exact ⟨lines, beginning ++ [c], by simp, whole, by simp [single, Ne.symm newline]⟩

theorem afterAll_lines_append {lines beginning : List Char}
    (whole : lines = [] ∨ lines.getLast? = some '\n') (single : '\n' ∉ beginning) :
    start.afterAll (lines ++ beginning) = ⟨lines.count '\n', beginning.length⟩ := by
  rw [afterAll_append, afterAll_of_lines whole, afterAll_of_not_mem single, Nat.zero_add]

end Pos

namespace SourceLines

/-- The line that is still open at the end of a text: what stands behind the last newline. -/
def openLine (text : List Char) : List Char :=
  text.rtakeWhile (· != '\n')

theorem openLine_append {lines beginning : List Char}
    (whole : lines = [] ∨ lines.getLast? = some '\n') (single : '\n' ∉ beginning) :
    openLine (lines ++ beginning) = beginning := by
  apply rtakeWhile_append_of_last
  · intro c listed
    rw [bne_iff_ne]
    rintro rfl
    exact single listed
  · rcases whole with rfl | last
    · simp
    · simp [last]

theorem afterAll_start (text : List Char) :
    Pos.start.afterAll text = ⟨text.count '\n', (openLine text).length⟩ := by
  obtain ⟨lines, beginning, rfl, whole, single⟩ := Pos.exists_lines text
  rw [Pos.afterAll_lines_append whole single, openLine_append whole single, List.count_append,
    List.count_eq_zero_of_not_mem single, Nat.add_zero]

def first (text : List Char) : List Char :=
  (withEnds text).headD []

@[simp] theorem first_nil : first [] = [] := rfl

theorem first_newline (text : List Char) : first ('\n' :: text) = ['\n'] := by
  rw [first, withEnds_cons]
  cases withEnds text <;> rfl

theorem first_cons {c : Char} (other : c ≠ '\n') (text : List Char) :
    first (c :: text) = c :: first text := by
  rw [first, first, withEnds_cons]
  cases withEnds text with
  | nil => rfl
  | cons line rest =>
      rw [prepend_cons, if_neg other]
      rfl

theorem first_append {beginning : List Char} (single : '\n' ∉ beginning) (text : List Char) :
    first (beginning ++ text) = beginning ++ first text := by
  induction beginning with
  | nil => rfl
  | cons c beginning ih =>
      obtain ⟨other, single⟩ : '\n' ≠ c ∧ '\n' ∉ beginning := by simpa using single
      rw [List.cons_append, first_cons (Ne.symm other), ih single, List.cons_append]

theorem head?_first (text : List Char) : (first text).head? = text.head? := by
  cases text with
  | nil => rfl
  | cons c text =>
      by_cases newline : c = '\n'
      · rw [newline, first_newline]
        rfl
      · rw [first_cons newline]
        rfl

theorem newline_not_mem_dropLast_first (text : List Char) : '\n' ∉ (first text).dropLast := by
  cases cut : withEnds text with
  | nil => simp [first, cut]
  | cons line rest =>
      have listed : first text ∈ withEnds text := by simp [first, cut]
      exact newline_not_mem_dropLast listed

theorem nth_zero (text : List Char) : nth text 0 = withoutEnd (first text) := by
  cases cut : withEnds text <;> simp [nth, ofText, first, cut, withoutEnd]

theorem nth_count {lines : List Char} (whole : lines = [] ∨ lines.getLast? = some '\n')
    (text : List Char) : nth (lines ++ text) (lines.count '\n') = withoutEnd (first text) := by
  by_cases more : text = []
  · rcases whole with rfl | last
    · rw [more]
      exact nth_zero []
    · obtain ⟨body, rfl⟩ := List.getLast?_eq_some_iff.mp last
      obtain ⟨above, beginning, cut, -, place'⟩ := withEnds_append (rfl : withEnds ['\n'] = _) body
      have above_line := Pos.line_afterAll Pos.start body
      rw [place', Pos.start, Nat.zero_add] at above_line
      simp [nth, ofText, cut, more, withoutEnd, ← above_line]
  · rw [← nth_zero, ← nth_append more (Pos.afterAll_of_lines whole) 0, Nat.zero_add]

/-- The line of the place between two parts of a text: what stands on it before the
    place is as long as the column says, and behind the place it goes on with the first
    line of the second part. -/
theorem nth_afterAll (before after : List Char) :
    ∃ beginning, '\n' ∉ beginning ∧
      (Pos.start.afterAll before).col = beginning.length ∧
      (before.getLast? = some '\r' ↔ beginning.getLast? = some '\r') ∧
      nth (before ++ after) (Pos.start.afterAll before).line =
        withoutEnd (beginning ++ first after) := by
  obtain ⟨lines, beginning, rfl, whole, single⟩ := Pos.exists_lines before
  have place := Pos.afterAll_lines_append whole single
  refine ⟨beginning, single, by rw [place], ?_, ?_⟩
  · rcases List.eq_nil_or_concat beginning with rfl | ⟨body, c, rfl⟩
    · rcases whole with rfl | last
      · simp
      · simp [last]
    · simp
  · rw [place, List.append_assoc, nth_count whole, first_append single]

theorem withoutEnd_of_not_mem {line : List Char} (single : '\n' ∉ line) : withoutEnd line = line := by
  apply withoutEnd_of_ne
  intro last
  exact single (List.mem_of_getLast? last)

theorem getElem?_withoutEnd_first {beginning after : List Char} {c : Char}
    (single : '\n' ∉ beginning) (shown : ¬ InLineEnd (c :: after) 0) :
    (withoutEnd (beginning ++ first (c :: after)))[beginning.length]? = some c := by
  have other : c ≠ '\n' := by
    rintro rfl
    exact shown (.inl rfl)
  have row := newline_not_mem_dropLast_first (beginning ++ c :: after)
  rw [first_append single] at row
  rw [getElem?_withoutEnd row, first_cons other, if_neg]
  · simp
  · intro ending
    apply shown
    have next : (first after)[0]? = after[0]? := by
      rw [← List.head?_eq_getElem?, head?_first, List.head?_eq_getElem?]
    rwa [InLineEnd, List.getElem?_append_right (Nat.le_refl _),
      List.getElem?_append_right (Nat.le_add_right _ _), Nat.sub_self, Nat.add_sub_cancel_left,
      List.getElem?_cons_zero, List.getElem?_cons_succ, next] at ending

theorem length_withoutEnd_newline {beginning : List Char} (after : List Char) :
    beginning.length =
      if beginning.getLast? = some '\r' then
        (withoutEnd (beginning ++ first ('\n' :: after))).length + 1
      else (withoutEnd (beginning ++ first ('\n' :: after))).length := by
  rw [first_newline]
  split
  · next last =>
      obtain ⟨body, rfl⟩ := List.getLast?_eq_some_iff.mp last
      rw [List.append_assoc, List.singleton_append, withoutEnd_crlf, List.length_append,
        List.length_singleton]
  · next last => rw [withoutEnd_newline last]

theorem withoutEnd_first_crlf (beginning after : List Char) :
    withoutEnd (beginning ++ first ('\r' :: '\n' :: after)) = beginning := by
  rw [first_cons (by decide), first_newline]
  exact withoutEnd_crlf beginning

end SourceLines

namespace Cursor

open SourceLines

theorem drop_of_getElem? {text : List Char} {n : Nat} {c : Char} (here : text[n]? = some c) :
    text.drop n = c :: text.drop (n + 1) := by
  obtain ⟨inside, rfl⟩ := List.getElem?_eq_some_iff.mp here
  exact List.drop_eq_getElem_cons inside

theorem next_fst (cur : Cursor) : cur.next.1 = cur.rest.head? := by
  unfold next
  split <;> simp_all

/-- The position of a cursor is found again in the line that an error at this position
    shows. The column is that of the character handed out last. A newline would stand
    right behind the line, or one column further if a carriage return goes before it,
    which then would stand right behind the line itself. When no character is left, the
    column is the length of the line, and the line is empty if the text ends with a
    newline. -/
theorem next_column (text : String) (fileName : Option String) (n : Nat) (fault : Fault)
    (markSize : Nat) :
    let handed := ((ofText text fileName).advance n).next.1
    let cur := ((ofText text fileName).advance n).next.2
    let row := (cur.errorHere fault markSize).diagnostic.sourceLine.toList
    handed = text.toList[n]? ∧
      (∀ c, handed = some c → ¬ InLineEnd text.toList n →
        ∃ inside : cur.pos.col < row.length, row[cur.pos.col] = c) ∧
      (handed = some '\n' →
        cur.pos.col =
          if (text.toList.take n).getLast? = some '\r' then row.length + 1 else row.length) ∧
      (handed = some '\r' → text.toList[n + 1]? = some '\n' → cur.pos.col = row.length) ∧
      (handed = none → cur.pos.col = row.length ∧
        (text.toList = [] ∨ text.toList.getLast? = some '\n' → row = [])) := by
  intro handed cur row
  have given : handed = text.toList[n]? := by simp [handed, next_fst]
  have place : cur.pos = Pos.start.afterAll (text.toList.take n) := by simp [cur]
  have halves : text.toList.take n ++ text.toList.drop n = text.toList := List.take_append_drop _ _
  obtain ⟨beginning, single, col, ending, shown⟩ :=
    nth_afterAll (text.toList.take n) (text.toList.drop n)
  have row_eq : row = withoutEnd (beginning ++ first (text.toList.drop n)) := by
    rw [← shown, halves, ← place]
    simp [row, cur, errorHere, errorAtPos, Diagnostic.toList_sourceLine]
  rw [given, place, col, row_eq]
  refine ⟨rfl, ?_, ?_, ?_, ?_⟩
  · intro c here other
    have follows := drop_of_getElem? here
    have shown : ¬ InLineEnd (c :: text.toList.drop (n + 1)) 0 := by
      rw [← follows]
      simpa [InLineEnd] using other
    rw [follows]
    exact List.getElem?_eq_some_iff.mp (getElem?_withoutEnd_first single shown)
  · intro here
    simp only [ending, drop_of_getElem? here]
    exact length_withoutEnd_newline _
  · intro here next
    rw [drop_of_getElem? here, drop_of_getElem? next, withoutEnd_first_crlf]
  · intro exhausted
    have past : text.toList.length ≤ n := List.getElem?_eq_none_iff.mp exhausted
    rw [List.take_of_length_le past] at col
    rw [List.drop_of_length_le past, first_nil, List.append_nil, withoutEnd_of_not_mem single]
    refine ⟨rfl, ?_⟩
    intro lines
    rw [Pos.afterAll_of_lines lines] at col
    exact List.length_eq_zero_iff.mp col.symm

end Cursor

end Sexpr
