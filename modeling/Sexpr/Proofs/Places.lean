import Sexpr.Cursor
import Sexpr.Proofs.Rendering

/-! # Every way to name a place

An error can be asked for at the current position, at a position, or at a line and a column
that may be counted from the end. All of these name places of the text. A place inside the
text has a name of each kind, and the errors made under them are the same.
-/

namespace Sexpr

/-- What an offset stands for among so many items: the item with this index, or the one as
    far from the end as it says, or the first one where that would be before all items. -/
inductive Denotes (length : Nat) (offset : Int) (index : Nat) : Prop where
  | fromStart (same : offset = index)
  | fromEnd (same : offset = index - length) (inside : index < length)
  | beforeStart (before : offset + length < 0) (first : index = 0)

theorem resolveOffset_eq_iff {offset : Int} {length index : Nat} :
    resolveOffset offset length = index ↔ Denotes length offset index := by
  unfold resolveOffset
  constructor
  · intro resolved
    split at resolved
    · by_cases before : offset + length < 0
      · exact .beforeStart before (by omega)
      · exact .fromEnd (by omega) (by omega)
    · exact .fromStart (by omega)
  · intro denotes
    cases denotes with
    | fromStart same => split <;> omega
    | fromEnd same inside => split <;> omega
    | beforeStart before first => split <;> omega

theorem Denotes.eq_zero {length index : Nat} {offset : Int} (h : Denotes length offset index)
    (negative : offset < 0) (reach : offset + length ≤ 0) : index = 0 := by
  cases h with
  | fromStart same => omega
  | fromEnd same inside => omega
  | beforeStart before first => exact first

namespace Cursor

open SourceLines

variable {cur : Cursor} {fault : Fault} {markSize : Nat}

theorem toList_sourceLine_errorAtPos (place : Pos) :
    (cur.errorAtPos fault place markSize).diagnostic.sourceLine.toList =
      nth cur.source.toList place.line :=
  Diagnostic.toList_sourceLine _

theorem sourceLine_errorAtPos_of_le {i j : Nat}
    (below : (SourceLines.ofText cur.source.toList).length ≤ i) :
    (cur.errorAtPos fault ⟨i, j⟩ markSize).diagnostic.sourceLine = "" := by
  rw [← String.toList_eq_nil_iff, toList_sourceLine_errorAtPos, nth, List.getElem?_eq_none below,
    Option.getD_none]

/-- An error at a line and a column is the error at the place that these denote, the column
    on the line that is shown. One of them that is not given is the current one. -/
theorem errorAt_eq_errorAtPos_iff {line col : Option Int} {place : Pos} :
    cur.errorAt fault line col markSize = cur.errorAtPos fault place markSize ↔
      Denotes (SourceLines.ofText cur.source.toList).length (line.getD cur.pos.line) place.line ∧
        Denotes (cur.errorAtPos fault place markSize).diagnostic.sourceLine.length
          (col.getD cur.pos.col) place.col := by
  rw [← String.length_toList, toList_sourceLine_errorAtPos]
  obtain ⟨l, c⟩ := place
  simp only [errorAt, errorAtPos, Diagnostic.atOffsets, SyntaxError.mk.injEq, Diagnostic.mk.injEq,
    Pos.mk.injEq, true_and, and_true, ← resolveOffset_eq_iff]
  constructor
  · rintro ⟨rfl, rfl⟩
    exact ⟨rfl, rfl⟩
  · rintro ⟨rfl, rfl⟩
    exact ⟨rfl, rfl⟩

theorem denotes_pos_errorAt (line col : Option Int) :
    let e := cur.errorAt fault line col markSize
    Denotes (SourceLines.ofText cur.source.toList).length (line.getD cur.pos.line) e.pos.line ∧
      Denotes e.diagnostic.sourceLine.length (col.getD cur.pos.col) e.pos.col :=
  errorAt_eq_errorAtPos_iff.mp rfl

section Inside

variable {i j : Nat} {row : List Char} {c : Char}
  (line_i : (SourceLines.ofText cur.source.toList)[i]? = some row)

include line_i

theorem toList_sourceLine_of_getElem? :
    (cur.errorAtPos fault ⟨i, j⟩ markSize).diagnostic.sourceLine.toList = row := by
  rw [toList_sourceLine_errorAtPos, nth, line_i, Option.getD_some]

theorem errorAt_of_getElem? (char_j : row[j]? = some c) {line col : Int}
    (line_name : line = i ∨ line = i - (SourceLines.ofText cur.source.toList).length)
    (col_name : col = j ∨ col = j - row.length) :
    cur.errorAt fault (some line) (some col) markSize =
      cur.errorAtPos fault ⟨i, j⟩ markSize := by
  have inside_i := (List.getElem?_eq_some_iff.mp line_i).1
  have inside_j := (List.getElem?_eq_some_iff.mp char_j).1
  rw [errorAt_eq_errorAtPos_iff, ← String.length_toList, toList_sourceLine_of_getElem? line_i]
  constructor
  · rcases line_name with same | same
    · exact .fromStart same
    · exact .fromEnd same inside_i
  · rcases col_name with same | same
    · exact .fromStart same
    · exact .fromEnd same inside_j

end Inside

/-- The error at a line and a column is the error at a place if and only if they denote this
    place: the line among all lines, and the column on the line that is shown. What is not
    given is the current line or column. So the character at a place inside the text has
    four names besides the place, and all errors made there are equal and show it. With
    nothing given the error is at the current position. Below the last line an empty one is
    shown, and an offset that reaches before the start means the start. -/
theorem errorAt_places (cur : Cursor) (fault : Fault) (markSize : Nat) :
    let rows := SourceLines.ofText cur.source.toList
    (∀ line col place,
      cur.errorAt fault line col markSize = cur.errorAtPos fault place markSize ↔
        Denotes rows.length (line.getD cur.pos.line) place.line ∧
          Denotes (cur.errorAtPos fault place markSize).diagnostic.sourceLine.length
            (col.getD cur.pos.col) place.col) ∧
    (∀ i j row c, rows[i]? = some row → row[j]? = some c →
      let e := cur.errorAtPos fault ⟨i, j⟩ markSize
      e.diagnostic.sourceLine.toList[j]? = some c ∧
        ∀ line col : Int, line = i ∨ line = i - rows.length → col = j ∨ col = j - row.length →
          cur.errorAt fault (some line) (some col) markSize = e) ∧
    cur.errorAt fault none none markSize = cur.errorHere fault markSize ∧
    (∀ i j, rows.length ≤ i →
      (cur.errorAtPos fault ⟨i, j⟩ markSize).diagnostic.sourceLine = "") ∧
    (∀ (line : Int) col, line < 0 → line + rows.length ≤ 0 →
      (cur.errorAt fault (some line) col markSize).pos.line = 0) ∧
    ∀ line (col : Int), col < 0 →
      let e := cur.errorAt fault line (some col) markSize
      col + e.diagnostic.sourceLine.length ≤ 0 → e.pos.col = 0 := by
  intro rows
  refine ⟨fun line col place => errorAt_eq_errorAtPos_iff, ?_, ?_, ?_, ?_, ?_⟩
  · intro i j row c line_i char_j e
    constructor
    · rw [toList_sourceLine_of_getElem? line_i]
      exact char_j
    · intro line col line_name col_name
      exact errorAt_of_getElem? line_i char_j line_name col_name
  · exact errorAt_eq_errorAtPos_iff.mpr ⟨.fromStart rfl, .fromStart rfl⟩
  · intro i j below
    exact sourceLine_errorAtPos_of_le below
  · intro line col negative reach
    exact (denotes_pos_errorAt (some line) col).1.eq_zero negative reach
  · intro line col negative e reach
    exact (denotes_pos_errorAt line (some col)).2.eq_zero negative reach

/-- The return before the newline is no part of the line, so it is not counted. -/
example :
    let cur := Cursor.ofText "ab\r\ncd" none
    cur.errorAt .unexpectedEnd (some (-2)) (some (-1)) 1 =
      cur.errorAtPos .unexpectedEnd ⟨0, 1⟩ 1 := by
  rfl

end Cursor

end Sexpr
