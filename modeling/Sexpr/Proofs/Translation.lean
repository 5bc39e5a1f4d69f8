import Sexpr.Proofs.Tokens

/-! # Parsing from the middle of a text

What a cursor has left is parsed as if it were a text of its own. The places of the
errors move with it: an error on the first line moves by the column that the cursor
stands at, and every error by its line. The end of the text moves in the same way,
although it is found by cutting the whole text into lines.
-/

namespace Sexpr

namespace Reader

theorem text_of_finish_error {settings : Settings} {r : Reader} {text : List Char} {fault : Fault}
    (run : start.run settings text = .ok r) (early : r.finish = .error fault) :
    text ≠ [] ∧ text ≠ ['\n'] ∧ text ≠ ['\r', '\n'] := by
  refine ⟨?_, ?_, ?_⟩
  all_goals
    rintro rfl
    cases run
    cases early

end Reader

namespace Cursor

/-- How the outcome of parsing what `cur` has left follows from that of parsing the
    same characters alone: the same tree, or the same fault with the same mark, at
    the place that the one in the text alone has when that text begins at `base`. -/
structure Translates (cur : Cursor) (base : Pos) (alone moved : Except SyntaxError Tree) :
    Prop where
  tree : ∀ v, moved = .ok v ↔ alone = .ok v
  error : ∀ e, alone = .error e →
    moved = .error (cur.errorAtPos e.fault (base.shift e.pos) e.markSize)

theorem translates_tree (cur : Cursor) (base : Pos) (v : Tree) :
    Translates cur base (.ok v) (.ok v) :=
  ⟨fun _ => Iff.rfl, by simp⟩

theorem translates_error (cur : Cursor) (base : Pos) (e : SyntaxError) :
    Translates cur base (.error e)
      (.error (cur.errorAtPos e.fault (base.shift e.pos) e.markSize)) :=
  ⟨by simp, by simp⟩

theorem Translates.fault {cur : Cursor} {base : Pos} {alone moved : Except SyntaxError Tree}
    (h : Translates cur base alone moved) {e : SyntaxError} (failed : moved = .error e) :
    ∃ e', alone = .error e' ∧ e'.fault = e.fault := by
  cases alone with
  | ok v =>
      rw [(h.tree v).mpr rfl] at failed
      cases failed
  | error e' =>
      rw [h.error e' rfl] at failed
      have same : cur.errorAtPos e'.fault (base.shift e'.pos) e'.markSize = e :=
        Except.error.inj failed
      exact ⟨e', rfl, by rw [← same, fault_errorAtPos]⟩

/-- Each of the three ends of a parse moves with the text. -/
theorem StandsBehind.translates {cur : Cursor} {before : List Char} (h : cur.StandsBehind before)
    (settings : Settings) (fileName : Option String) :
    Translates cur (Pos.start.afterAll before)
      ((ofText (String.ofList cur.rest) fileName).parse settings).1 (cur.parse settings).1 := by
  obtain ⟨alone, _, parsed, outcome⟩ :=
    parse_outcome settings (ofText (String.ofList cur.rest) fileName)
  rw [parsed]
  cases outcome with
  | finished run tree =>
      rw [rest_ofText, String.toList_ofList] at run
      have moved : Outcome settings cur _ _ := .finished run tree
      rw [moved.parse_eq]
      exact translates_tree cur _ _
  | ended run early =>
      rw [rest_ofText, String.toList_ofList] at run
      have moved : Outcome settings cur _ _ := .ended run early
      obtain ⟨nonempty, newline, crlf⟩ := Reader.text_of_finish_error run early
      rw [moved.parse_eq, h.source, SourceLines.lastPlace_append nonempty newline crlf,
        source_ofText, String.toList_ofList]
      exact translates_error cur _ _
  | refused split run refusal =>
      rw [rest_ofText, String.toList_ofList] at split
      have moved : Outcome settings cur _ _ := .refused split run refusal
      rw [moved.parse_eq, h.nextPos, Pos.afterAll_eq_shift (Pos.start.afterAll before),
        refusal.place_shift (Reader.run_endsWithToken run), nextPos_ofText]
      exact translates_error cur _ _

theorem standsBehind_advance (before text : String) (fileName : Option String) :
    let cur := (ofText (before ++ text) fileName).advance before.length
    cur.StandsBehind before.toList ∧ cur.rest = text.toList := by
  intro cur
  have behind := (standsBehind_ofText (before ++ text) fileName).advance before.length
  rw [rest_ofText, String.toList_append, List.nil_append, List.take_left' String.length_toList]
    at behind
  refine ⟨behind, ?_⟩
  rw [rest_advance, rest_ofText, String.toList_append, List.drop_left' String.length_toList]

/-- Parsing behind `before` is parsing `text` alone, with every place moved behind
    `before`. A fault inside the text stops the cursor right behind the character
    that shows it, from where what is left is parsed in the same way, and otherwise
    the cursor has nothing left. -/
theorem parse_behind (settings : Settings) (before text : String)
    (fileName aloneName : Option String) :
    let cur := (ofText (before ++ text) fileName).advance before.length
    let alone := ((ofText text aloneName).parse settings).1
    let stop := (cur.parse settings).2
    Translates cur (Pos.start.afterAll before.toList) alone (cur.parse settings).1 ∧
      (∀ e, alone = .error e → e.fault.atEnd = false →
        ∃ read c rest, text.toList = read ++ c :: rest ∧
          (∃ r, Reader.start.run settings read = .ok r ∧ r.feed settings c = .error e.fault) ∧
          stop = (ofText (before ++ text) fileName).advance (before.length + (read.length + 1)) ∧
          stop.rest = rest ∧
          ∀ again, Translates stop (Pos.start.afterAll (before.toList ++ read ++ [c]))
            ((ofText (String.ofList rest) aloneName).parse again).1 (stop.parse again).1) ∧
      ((∀ e, alone = .error e → e.fault.atEnd = true) →
        stop.rest = [] ∧ stop.next = (none, stop)) := by
  intro cur alone stop
  obtain ⟨behind, left⟩ : cur.StandsBehind before.toList ∧ cur.rest = text.toList :=
    standsBehind_advance before text fileName
  have translates :
      Translates cur (Pos.start.afterAll before.toList) alone (cur.parse settings).1 := by
    simpa [left] using behind.translates settings aloneName
  refine ⟨translates, ?_, ?_⟩
  · intro e failed inside
    obtain ⟨read, c, rest, split, found, stopped⟩ :=
      stop_of_error (translates.error e failed) inside
    have handed : cur.rest.take (read.length + 1) = read ++ [c] := by
      rw [split, List.append_cons]
      exact List.take_left' (by simp)
    have remains : stop.rest = rest := by simp [stop, stopped, split]
    refine ⟨read, c, rest, left ▸ split, found, ?_, remains, ?_⟩
    · rw [advance_add]
      exact stopped
    · intro again
      have further := behind.advance (read.length + 1)
      rw [handed, ← stopped] at further
      simpa [stop, remains] using further.translates again aloneName
  · intro ends
    refine stop_exhausted fun e failed => ?_
    obtain ⟨e', failed, same⟩ := translates.fault failed
    exact same ▸ ends e' failed

end Cursor

end Sexpr
