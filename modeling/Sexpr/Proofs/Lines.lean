import Mathlib.Data.List.Basic
import Mathlib.Data.List.DropRight
import Sexpr.Pos
import Sexpr.SourceLines

/-! # Lines and positions

Positions are counted along a text, one character after the other, and lines are
cut from its end. Both agree: what stands before a place of a text is whole lines,
as many as the place's line number says, and the beginning of one more, as long as
its column says.
-/

namespace Sexpr

namespace Pos

/-- Where the place `p` of a text is found when the text itself begins at `base`. -/
def shift (base p : Pos) : Pos :=
  if p.line = 0 then ⟨base.line, base.col + p.col⟩ else ⟨base.line + p.line, p.col⟩

@[simp] theorem shift_start (base : Pos) : base.shift start = base := rfl

theorem shift_after (base p : Pos) (c : Char) :
    base.shift (p.after c) = (base.shift p).after c := by
  by_cases newline : c = '\n' <;> by_cases first : p.line = 0 <;>
    simp [shift, after, newline, first, Nat.add_assoc]

theorem shift_afterAll (base p : Pos) (cs : List Char) :
    base.shift (p.afterAll cs) = (base.shift p).afterAll cs := by
  induction cs generalizing p with
  | nil => rfl
  | cons c cs ih => simp only [afterAll_cons, ih, shift_after]

theorem afterAll_eq_shift (base : Pos) (cs : List Char) :
    base.afterAll cs = base.shift (start.afterAll cs) := by
  rw [shift_afterAll, shift_start]

theorem after_of_ne {c : Char} (h : c ≠ '\n') (p : Pos) : p.after c = ⟨p.line, p.col + 1⟩ := by
  simp only [after, h, if_false]

theorem afterAll_of_not_mem {cs : List Char} (h : '\n' ∉ cs) (p : Pos) :
    p.afterAll cs = ⟨p.line, p.col + cs.length⟩ := by
  induction cs generalizing p with
  | nil => rfl
  | cons c cs ih =>
      obtain ⟨first, rest⟩ : '\n' ≠ c ∧ '\n' ∉ cs := by simpa using h
      rw [afterAll_cons, after_of_ne (Ne.symm first), ih rest, List.length_cons, Nat.add_assoc,
        Nat.add_comm 1]

theorem line_afterAll (p : Pos) (cs : List Char) :
    (p.afterAll cs).line = p.line + cs.count '\n' := by
  induction cs generalizing p with
  | nil => rfl
  | cons c cs ih =>
      rw [afterAll_cons, ih, List.count_cons]
      by_cases newline : c = '\n'
      · simp [after, newline, Nat.add_comm, Nat.add_left_comm]
      · simp [after, newline]

theorem afterAll_of_lines {cs : List Char} (lines : cs = [] ∨ cs.getLast? = some '\n') :
    start.afterAll cs = ⟨cs.count '\n', 0⟩ := by
  have line := line_afterAll start cs
  rcases lines with rfl | last
  · rfl
  · obtain ⟨body, rfl⟩ := List.getLast?_eq_some_iff.mp last
    rw [afterAll_append] at line ⊢
    simp only [afterAll_cons, afterAll_nil, after, if_true, start, Nat.zero_add] at line ⊢
    rw [line]

theorem shift_of_col_eq_zero (n : Nat) (p : Pos) : (⟨n, 0⟩ : Pos).shift p = ⟨p.line + n, p.col⟩ := by
  unfold shift
  split <;> simp_all [Nat.add_comm]

end Pos

theorem rtakeWhile_append_of_last {kind : Char → Bool} {before word : List Char}
    (within : ∀ c ∈ word, kind c = true) (last : ∀ c ∈ before.getLast?, kind c = false) :
    (before ++ word).rtakeWhile kind = word := by
  have stops : before.rtakeWhile kind = [] := by
    rw [List.rtakeWhile_eq_nil_iff]
    intro nonempty
    simp [last _ (List.getLast?_eq_some_getLast nonempty)]
  have backwards : before.reverse.takeWhile kind = [] := by
    simpa [List.rtakeWhile] using stops
  rw [List.rtakeWhile, List.reverse_append, List.takeWhile_append_of_pos (by simpa using within),
    backwards, List.append_nil, List.reverse_reverse]

namespace SourceLines

/-! ## Cutting a text in two -/

theorem withEnds_ne_nil {text : List Char} (h : text ≠ []) : withEnds text ≠ [] := by
  intro none
  exact h (by rw [← flatten_withEnds text, none, List.flatten_nil])

theorem prepend_cons (c : Char) (line : List Char) (rest : List (List Char)) :
    prepend c (line :: rest) = if c = '\n' then [c] :: line :: rest else (c :: line) :: rest :=
  rfl

/-- A text put before another one leaves all lines of that one as they are, but
    for the first, which gets longer at its front. -/
theorem withEnds_append {text line : List Char} {rest : List (List Char)}
    (h : withEnds text = line :: rest) (before : List Char) :
    ∃ above beginning, withEnds (before ++ text) = above ++ (beginning ++ line) :: rest ∧
      before = above.flatten ++ beginning ∧
      Pos.start.afterAll before = ⟨above.length, beginning.length⟩ := by
  induction before with
  | nil => exact ⟨[], [], h, rfl, rfl⟩
  | cons c before ih =>
      obtain ⟨above, beginning, cut, whole, place⟩ := ih
      have moved : Pos.start.afterAll (c :: before) =
          (Pos.start.after c).shift ⟨above.length, beginning.length⟩ := by
        rw [Pos.afterAll_cons, Pos.afterAll_eq_shift, place]
      by_cases newline : c = '\n'
      · refine ⟨[c] :: above, beginning, ?_, by simp [whole], ?_⟩
        · rw [List.cons_append, withEnds_cons, cut]
          cases above <;> simp [prepend_cons, newline]
        · rw [moved]
          simp only [Pos.shift, Pos.after, newline, Pos.start, List.length_cons]
          split <;> simp_all [Nat.add_comm]
      · rw [Pos.after_of_ne newline] at moved
        cases above with
        | nil =>
            refine ⟨[], c :: beginning, ?_, by simp [whole], ?_⟩
            · rw [List.cons_append, withEnds_cons, cut]
              simp [prepend_cons, newline]
            · rw [moved]
              simp [Pos.shift, Pos.start, Nat.add_comm]
        | cons first above =>
            refine ⟨(c :: first) :: above, beginning, ?_, by simp [whole], ?_⟩
            · rw [List.cons_append, withEnds_cons, cut]
              simp [prepend_cons, newline]
            · rw [moved]
              simp [Pos.shift, Pos.start]

theorem withEnds_cons_eq_cons (c : Char) (text : List Char) :
    ∃ after below, withEnds (c :: text) = (c :: after) :: below := by
  rw [withEnds_cons]
  cases withEnds text with
  | nil => exact ⟨[], [], rfl⟩
  | cons line rest =>
      rw [prepend_cons]
      split
      · exact ⟨[], line :: rest, rfl⟩
      · exact ⟨line, rest, rfl⟩

/-- The line on which `c` stands, when the `stem` before it is on the same line. The
    text before the stem is the lines above and the beginning of this one. -/
theorem withEnds_around (before : List Char) {stem : List Char} (h : '\n' ∉ stem) (c : Char)
    (text : List Char) :
    ∃ above beginning after below,
      withEnds (before ++ (stem ++ c :: text)) =
        above ++ (beginning ++ (stem ++ c :: after)) :: below ∧
      before = above.flatten ++ beginning ∧
      Pos.start.afterAll (before ++ stem) = ⟨above.length, beginning.length + stem.length⟩ := by
  obtain ⟨after, below, cut⟩ := withEnds_cons_eq_cons c text
  obtain ⟨none, start, cut, whole, place⟩ := withEnds_append cut stem
  rw [Pos.afterAll_of_not_mem h, Pos.mk.injEq] at place
  obtain rfl : none = [] := List.length_eq_zero_iff.mp place.1.symm
  obtain rfl : stem = start := by simpa using whole
  obtain ⟨above, beginning, cut, whole, place⟩ := withEnds_append cut before
  refine ⟨above, beginning, after, below, cut, whole, ?_⟩
  rw [Pos.afterAll_append, place, Pos.afterAll_of_not_mem h]

theorem newline_not_mem_dropLast {text line : List Char} (h : line ∈ withEnds text) :
    '\n' ∉ line.dropLast := by
  induction text generalizing line with
  | nil => simp at h
  | cons c text ih =>
      rw [withEnds_cons] at h
      cases cut : withEnds text with
      | nil =>
          obtain rfl : line = [c] := by simpa [cut, prepend] using h
          simp
      | cons first rest =>
          rw [cut] at ih
          rw [cut, prepend_cons] at h
          by_cases newline : c = '\n'
          · rw [if_pos newline] at h
            rcases List.mem_cons.mp h with rfl | h
            · simp
            · exact ih h
          · rw [if_neg newline] at h
            rcases List.mem_cons.mp h with rfl | h
            · have := @ih first (by simp)
              cases first <;> simp_all [eq_comm]
            · exact ih (by simp [h])

/-! ## The ends of lines -/

theorem withoutEnd_crlf (body : List Char) : withoutEnd (body ++ ['\r', '\n']) = body := by
  simp [withoutEnd]

theorem withoutEnd_newline {body : List Char} (h : body.getLast? ≠ some '\r') :
    withoutEnd (body ++ ['\n']) = body := by
  have backwards : (body ++ ['\n']).reverse = '\n' :: body.reverse := by simp
  unfold withoutEnd
  rw [backwards]
  split
  · next rest same =>
      rw [List.cons.injEq] at same
      rw [← List.head?_reverse, same.2] at h
      simp at h
  · next rest _ same =>
      rw [List.cons.injEq] at same
      rw [← same.2, List.reverse_reverse]
  · next _ other => exact absurd rfl (other body.reverse)

theorem withoutEnd_of_ne {line : List Char} (h : line.getLast? ≠ some '\n') :
    withoutEnd line = line := by
  rw [← List.head?_reverse] at h
  unfold withoutEnd
  split <;> simp_all

theorem line_cases (line : List Char) :
    (∃ body, line = body ++ ['\r', '\n']) ∨
      (∃ body, line = body ++ ['\n'] ∧ body.getLast? ≠ some '\r') ∨
        line.getLast? ≠ some '\n' := by
  by_cases newline : line.getLast? = some '\n'
  · obtain ⟨body, rfl⟩ := List.getLast?_eq_some_iff.mp newline
    by_cases return' : body.getLast? = some '\r'
    · obtain ⟨body, rfl⟩ := List.getLast?_eq_some_iff.mp return'
      exact .inl ⟨body, by simp⟩
    · exact .inr (.inl ⟨body, rfl, return'⟩)
  · exact .inr (.inr newline)

theorem withoutEnd_append {line : List Char} (h : withoutEnd line ≠ []) (beginning : List Char) :
    withoutEnd (beginning ++ line) = beginning ++ withoutEnd line := by
  rcases line_cases line with ⟨body, rfl⟩ | ⟨body, rfl, last⟩ | last
  · rw [← List.append_assoc, withoutEnd_crlf, withoutEnd_crlf]
  · rw [withoutEnd_newline last] at h
    rw [← List.append_assoc, withoutEnd_newline last, withoutEnd_newline]
    rwa [List.getLast?_append_of_ne_nil _ h]
  · rw [withoutEnd_of_ne last] at h
    rw [withoutEnd_of_ne last, withoutEnd_of_ne]
    rwa [List.getLast?_append_of_ne_nil _ h]

theorem eq_of_withoutEnd_eq_nil {line : List Char} (h : withoutEnd line = []) :
    line = [] ∨ line = ['\n'] ∨ line = ['\r', '\n'] := by
  rcases line_cases line with ⟨body, rfl⟩ | ⟨body, rfl, last⟩ | last
  · rw [withoutEnd_crlf] at h
    simp [h]
  · rw [withoutEnd_newline last] at h
    simp [h]
  · rw [withoutEnd_of_ne last] at h
    simp [h]

/-- Does this character of a line belong to the line's end? It is the newline, or a
    carriage return directly before it. -/
def InLineEnd (row : List Char) (i : Nat) : Prop :=
  row[i]? = some '\n' ∨ row[i]? = some '\r' ∧ row[i + 1]? = some '\n'

instance (row : List Char) (i : Nat) : Decidable (InLineEnd row i) :=
  inferInstanceAs (Decidable (_ ∨ _))

theorem getElem?_ne_newline {body : List Char} (h : '\n' ∉ body) (i : Nat) :
    body[i]? ≠ some '\n' :=
  fun newline => h (List.mem_of_getElem? newline)

/-- A line is shown with each character in its own column, all but those of its end. -/
theorem getElem?_withoutEnd {row : List Char} (single : '\n' ∉ row.dropLast) (i : Nat) :
    (withoutEnd row)[i]? = if InLineEnd row i then none else row[i]? := by
  rcases line_cases row with ⟨body, rfl⟩ | ⟨body, rfl, last⟩ | last
  · have inside : '\n' ∉ body := by simp_all
    have here := getElem?_ne_newline inside i
    have next := getElem?_ne_newline inside (i + 1)
    rw [withoutEnd_crlf]
    grind [InLineEnd]
  · have inside : '\n' ∉ body := by simpa using single
    have here := getElem?_ne_newline inside i
    have next := getElem?_ne_newline inside (i + 1)
    rw [withoutEnd_newline last]
    grind [InLineEnd]
  · have inside : '\n' ∉ row := by
      intro newline
      rcases List.eq_nil_or_concat row with rfl | ⟨body, c, rfl⟩
      · simp at newline
      · simp_all [eq_comm]
    rw [withoutEnd_of_ne last, if_neg]
    rintro (newline | ⟨-, newline⟩)
    · exact getElem?_ne_newline inside _ newline
    · exact getElem?_ne_newline inside _ newline

theorem newline_not_mem_withoutEnd {line : List Char} (single : '\n' ∉ line.dropLast) :
    '\n' ∉ withoutEnd line := by
  intro newline
  obtain ⟨i, shown⟩ := List.mem_iff_getElem?.mp newline
  rw [getElem?_withoutEnd single] at shown
  split at shown
  · cases shown
  · next other => exact other (.inl shown)

theorem nth_of_withEnds {text line : List Char} {i : Nat} (h : (withEnds text)[i]? = some line) :
    nth text i = withoutEnd line := by
  simp [nth, ofText, h]

theorem newline_not_mem_nth (text : List Char) (i : Nat) : '\n' ∉ nth text i := by
  cases cut : (withEnds text)[i]? with
  | none => simp [nth, ofText, cut]
  | some line =>
      rw [nth_of_withEnds cut]
      exact newline_not_mem_withoutEnd (newline_not_mem_dropLast (List.mem_of_getElem? cut))

theorem nth_append {text before : List Char} {n : Nat} (nonempty : text ≠ [])
    (place : Pos.start.afterAll before = ⟨n, 0⟩) (i : Nat) :
    nth (before ++ text) (i + n) = nth text i := by
  cases cut : withEnds text with
  | nil => exact absurd cut (withEnds_ne_nil nonempty)
  | cons line rest =>
      obtain ⟨above, beginning, whole, -, place'⟩ := withEnds_append cut before
      rw [place, Pos.mk.injEq] at place'
      obtain ⟨rfl, none⟩ := place'
      obtain rfl := List.length_eq_zero_iff.mp none.symm
      simp [nth, ofText, whole, cut, List.getElem?_append_right]

/-! ## The end of a text -/

def lastPlace (text : List Char) : Pos :=
  let line := (ofText text).length - 1
  ⟨line, (nth text line).length - 1⟩

theorem lastPlace_of_withEnds {text line : List Char} {above : List (List Char)}
    (h : withEnds text = above ++ [line]) :
    lastPlace text = ⟨above.length, (withoutEnd line).length - 1⟩ := by
  simp [lastPlace, ofText, nth, h]

/-- The end of a text moves with the text, whatever stands before it, unless the
    text is nothing but the end of a line. -/
theorem lastPlace_append {text : List Char} (nonempty : text ≠ []) (newline : text ≠ ['\n'])
    (crlf : text ≠ ['\r', '\n']) (before : List Char) :
    lastPlace (before ++ text) = (Pos.start.afterAll before).shift (lastPlace text) := by
  cases cut : withEnds text with
  | nil => exact absurd cut (withEnds_ne_nil nonempty)
  | cons line rest =>
      obtain ⟨above, beginning, cut', -, place⟩ := withEnds_append cut before
      rw [place]
      rcases List.eq_nil_or_concat rest with rfl | ⟨middle, last, rfl⟩
      · -- One line: it is the whole text, and it shows something.
        obtain rfl : text = line := by rw [← flatten_withEnds text, cut]; simp
        have shown : withoutEnd text ≠ [] := by
          intro h
          rcases eq_of_withoutEnd_eq_nil h with h | h | h <;> contradiction
        have := List.length_pos_iff.mpr shown
        have single : withEnds text = [] ++ [text] := cut
        rw [lastPlace_of_withEnds cut', lastPlace_of_withEnds single, withoutEnd_append shown]
        simp only [Pos.shift, List.length_nil, List.length_append, if_true, Pos.mk.injEq, true_and]
        omega
      · have whole : withEnds (before ++ text) =
            (above ++ (beginning ++ line) :: middle) ++ [last] := by simp [cut']
        have alone : withEnds text = (line :: middle) ++ [last] := by simp [cut]
        rw [lastPlace_of_withEnds whole, lastPlace_of_withEnds alone]
        simp [Pos.shift]

end SourceLines

end Sexpr
