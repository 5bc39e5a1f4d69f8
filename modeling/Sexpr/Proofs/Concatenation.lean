import Sexpr.Proofs.Acceptance
import Sexpr.Proofs.Context
import Sexpr.Proofs.Rendering
import Sexpr.Proofs.Translation

/-! # One text behind another

A text of whole lines that can be read leaves the reader between items, with all of
them in the list of the text itself. Behind it another text is read as it is alone.
Its items are added, and its errors move down by the lines above them.
-/

namespace Sexpr

namespace Reader

variable {settings : Settings}

theorem Step.token_of_newline {r r' : Reader} (step : Step settings r '\n' r') :
    r'.token = .word [] ∨ ∃ body, r'.token = .literal body := by
  cases step with
  | letter plain => cases plain
  | blank | commentEnd => exact .inl rfl
  | commented line => exact absurd rfl line
  | plain | escaped | kept => exact .inr ⟨_, rfl⟩

theorem token_of_lines {text : List Char} {r : Reader} {v : Tree}
    (run : start.run settings text = .ok r) (finished : r.finish = .ok v)
    (lines : text = [] ∨ text.getLast? = some '\n') : r.token = .word [] := by
  rcases lines with rfl | last
  · cases run
    rfl
  · obtain ⟨body, rfl⟩ := List.getLast?_eq_some_iff.mp last
    obtain ⟨before, -, step⟩ := run_concat_eq_ok_iff.mp run
    rcases step.token_of_newline with between | ⟨body, literal⟩
    · exact between
    · rcases (finish_eq_ok_iff.mp finished).1 with between | comment
      · exact between
      · rw [literal] at comment
        cases comment

/-- Behind such a text a reader is where it starts, with the trees of the text already
    there. So whatever follows is read as it is alone. -/
theorem run_lines_append {text more : List Char} {trees : List Tree} {r : Reader}
    (read : Reads settings text (.list trees)) (lines : text = [] ∨ text.getLast? = some '\n')
    (run : start.run settings more = .ok r) :
    ∃ r', start.run settings (text ++ more) = .ok r' ∧ Inside trees.reverse [] r r' := by
  obtain ⟨before, runBefore, finished⟩ := read
  have between := token_of_lines runBefore finished lines
  obtain ⟨-, outermost, same⟩ := finish_eq_ok_iff.mp finished
  obtain ⟨token, frames, items⟩ := before
  dsimp only at between outermost same
  subst between outermost
  have inside : Inside trees.reverse [] start ⟨.word [], .empty, items⟩ := by
    rw [Tree.list.inj same, List.reverse_reverse]
    exact inside_start .empty items
  obtain ⟨r', runMore, inside'⟩ := run_inside (.inr rfl) run inside
  refine ⟨r', ?_, inside'⟩
  rw [run_append, runBefore]
  exact runMore

end Reader

namespace Cursor

/-- Each of the three ends of a parse is the same one behind whole lines that can be
    read: with their trees in front, or at the place moved down by as many lines. -/
theorem Outcome.behind_lines {settings : Settings} {text more : String} {trees : List Tree}
    {aloneName : Option String} {result : Except SyntaxError Tree} {stop : Cursor}
    (outcome : Outcome settings (ofText more aloneName) result stop)
    (read : Reader.Reads settings text.toList (.list trees))
    (lines : text.toList = [] ∨ text.toList.getLast? = some '\n') (name : Option String) :
    let cur := ofText (text ++ more) name
    (∀ others, result = .ok (.list others) →
      (cur.parse settings).1 = .ok (.list (trees ++ others))) ∧
    ∀ e, result = .error e →
      (cur.parse settings).1 = .error
        (cur.errorAtPos e.fault ⟨e.pos.line + newlines text, e.pos.col⟩ e.markSize) := by
  intro cur
  have whole : (text ++ more).toList = text.toList ++ more.toList := String.toList_append
  have place : Pos.start.afterAll text.toList = ⟨newlines text, 0⟩ := Pos.afterAll_of_lines lines
  cases outcome with
  | @finished r v run tree =>
      obtain ⟨r', run', inside⟩ := Reader.run_lines_append read lines run
      refine ⟨?_, by simp⟩
      intro others result
      rw [Except.ok.inj result] at tree
      have tree' : r'.finish = .ok (.list (trees ++ others)) := by
        simpa using inside.finish_eq_ok tree
      rw [rest_ofText, ← whole] at run'
      have moved : Outcome settings cur _ _ := .finished run' tree'
      rw [moved.parse_eq]
  | @ended r fault run early =>
      obtain ⟨r', run', inside⟩ := Reader.run_lines_append read lines run
      obtain ⟨nonempty, newline, crlf⟩ := Reader.text_of_finish_error run early
      refine ⟨by simp, ?_⟩
      intro e result
      obtain rfl := Except.error.inj result
      rw [rest_ofText, ← whole] at run'
      have moved : Outcome settings cur _ _ := .ended run' (inside.finish_eq_error early)
      -- The place is found from the end of the text, not from what was read.
      have last : SourceLines.lastPlace cur.source.toList =
          (Pos.start.afterAll text.toList).shift (SourceLines.lastPlace more.toList) := by
        rw [source_ofText, whole]
        exact SourceLines.lastPlace_append nonempty newline crlf _
      rw [moved.parse_eq, last, place, Pos.shift_of_col_eq_zero]
      rfl
  | @refused begun c left r fault split run refusal =>
      obtain ⟨r', run', inside⟩ := Reader.run_lines_append read lines run
      refine ⟨by simp, ?_⟩
      intro e result
      obtain rfl := Except.error.inj result
      have split' : cur.rest = (text.toList ++ begun) ++ c :: left := by
        rw [rest_ofText] at split
        rw [rest_ofText, whole, split, List.append_assoc]
      have moved : Outcome settings cur _ _ := .refused split' run' (refusal.inside inside)
      have found : fault.place (Pos.start.afterAll (text.toList ++ begun)) =
          (Pos.start.afterAll text.toList).shift (fault.place (Pos.start.afterAll begun)) := by
        rw [Pos.afterAll_append, Pos.afterAll_eq_shift]
        exact refusal.place_shift (Reader.run_endsWithToken run) _
      rw [moved.parse_eq, nextPos_ofText, found, place, Pos.shift_of_col_eq_zero]
      rfl

end Cursor

/-- Two texts, the first one of whole lines, are parsed together as they are apart. The
    trees of the second one come behind those of the first. An error in the second one
    is the same error, under the same line of the text, as many lines further down as
    the first one has. -/
theorem parseWith_lines_append {settings : Settings} {text : String} {trees : List Tree}
    {name : Option String} (lines : text.toList = [] ∨ text.toList.getLast? = some '\n')
    (read : parseWith settings (.text text) name = .ok (.list trees)) (more : String)
    (aloneName wholeName : Option String) :
    (∀ others, parseWith settings (.text more) aloneName = .ok (.list others) →
      parseWith settings (.text (text ++ more)) wholeName = .ok (.list (trees ++ others))) ∧
    ∀ e, parseWith settings (.text more) aloneName = .error (.syntactic e) →
      ∃ e', parseWith settings (.text (text ++ more)) wholeName = .error (.syntactic e') ∧
        e'.fault = e.fault ∧ e'.markSize = e.markSize ∧
        e'.pos = ⟨e.pos.line + newlines text, e.pos.col⟩ ∧
        e'.diagnostic.sourceLine = e.diagnostic.sourceLine := by
  have reads := parseWith_text_eq_ok_iff.mp read
  obtain ⟨result, stop, parsed, outcome⟩ :=
    Cursor.parse_outcome settings (.ofText more aloneName)
  obtain ⟨trees, errors⟩ := outcome.behind_lines reads lines wholeName
  constructor
  · intro others alone
    rw [parseWith_text, mapError_eq_ok_iff, parsed] at alone
    rw [parseWith_text, mapError_eq_ok_iff]
    exact trees others alone
  · intro e alone
    rw [parseWith_text_eq_error_iff] at alone
    have source : e.diagnostic.source = more := Cursor.source_of_error alone
    -- Nothing fails in an empty text, and only behind a nonempty one do the lines count on.
    have nonempty : more.toList ≠ [] := by
      intro empty
      obtain rfl : more = "" := by simpa using empty
      cases alone
    rw [parsed] at alone
    refine ⟨_, parseWith_text_eq_error_iff.mpr (errors e alone), rfl, rfl, rfl, ?_⟩
    have place : Pos.start.afterAll text.toList = ⟨newlines text, 0⟩ := Pos.afterAll_of_lines lines
    have line := SourceLines.nth_append nonempty place e.pos.line
    change String.ofList (SourceLines.nth (text ++ more).toList (e.pos.line + newlines text)) =
      String.ofList (SourceLines.nth e.diagnostic.source.toList e.pos.line)
    rw [source, String.toList_append, line]

theorem parseWith_lines_append_unterminated :
    ("(a)\r\n; b\n".toList = [] ∨ "(a)\r\n; b\n".toList.getLast? = some '\n') ∧
      parseWith .strict (.text "(a)\r\n; b\n") none =
        .ok (.list [.list [.symbol "a"], .symbol "\r"]) ∧
      ∃ e, parseWith .strict (.text "(a)\r\n; b\nc (\n \"d\r\n") none = .error (.syntactic e) ∧
        e.fault = .unterminatedString ∧ e.pos = ⟨3, 2⟩ ∧ e.diagnostic.sourceLine = " \"d" := by
  have lines : "(a)\r\n; b\n".toList = [] ∨ "(a)\r\n; b\n".toList.getLast? = some '\n' :=
    .inr rfl
  have read : parseWith .strict (.text "(a)\r\n; b\n") none =
      .ok (.list [.list [.symbol "a"], .symbol "\r"]) := rfl
  obtain ⟨e, alone, fault, pos, line⟩ :
      ∃ e, parseWith .strict (.text "c (\n \"d\r\n") none = .error (.syntactic e) ∧
        e.fault = .unterminatedString ∧ e.pos = ⟨1, 2⟩ ∧ e.diagnostic.sourceLine = " \"d" :=
    ⟨_, rfl, rfl, rfl, rfl⟩
  obtain ⟨e', whole, fault', -, pos', line'⟩ :=
    (parseWith_lines_append lines read "c (\n \"d\r\n" none none).2 e alone
  refine ⟨lines, read, e', whole, fault'.trans fault, ?_, line'.trans line⟩
  rw [pos', pos]
  rfl

end Sexpr
