import Sexpr.CommandLine
import Sexpr.Proofs.Rendering
import Sexpr.Proofs.RoundTrip
import Sexpr.Proofs.Sources

/-! # The command reproduces its own output

When the command prints what it has read, its output is a text again: the items, each
one behind the line of the one before, and a comment. Read under the same settings this
text is the same tree. So the command says of it what it says of the file.
-/

namespace Sexpr

namespace Grammar

variable {strict : Bool}

theorem Forest.lines {write : Tree → String} {trees : List Tree} {text : List Char}
    (written : ∀ t ∈ trees, Written strict (write t).toList t) (behind : Forest strict text [] []) :
    Forest strict ((String.join (trees.map fun t => write t ++ "\n")).toList ++ text) trees [] := by
  induction trees with
  | nil => simpa using behind
  | cons t trees ih =>
      obtain ⟨first, others⟩ := List.forall_mem_cons.mp written
      have below : Forest strict ('\n' :: _) trees [] := .blank (.inr (.inr rfl)) (ih others)
      simpa using first.read rfl below

theorem Forest.commentLine {line : String} (begins : line.toList.head? = some ';')
    (single : newlines line = 0) : Forest strict (line ++ "\n").toList [] [] := by
  obtain ⟨body, comment⟩ := List.head?_eq_some_iff.mp begins
  rw [newlines_eq_zero_iff, comment] at single
  have line_end : Forest strict (';' :: body ++ ['\n']) [] [] :=
    .comment (fun newline => single (List.mem_cons_of_mem _ newline)) .nil
  simpa [comment] using line_end

end Grammar

theorem parseWith_bytes_eq_ok {settings : Settings} {source : ByteSource} {name : Option String}
    {t : Tree} (read : parseWith settings (.bytes source) name = .ok t) :
    ∃ trees, t = .list trees ∧ Tree.AllReadable trees ∧
      ∀ limit, settings.maxDepth = some limit → Tree.nestingAll trees ≤ limit := by
  obtain ⟨text, -, read⟩ := exists_text_of_parseWith_bytes read
  rw [parseWith_text_eq_ok_iff, Reader.reads_iff] at read
  obtain ⟨trees, rfl, forest, room⟩ := read
  exact ⟨trees, rfl, forest.allReadable, room⟩

namespace CommandLine

/-! ## What is printed -/

theorem forest_counts (strict : Bool) (t : Tree) :
    Grammar.Forest strict (Report.counts t).toList [] [] := by
  apply Grammar.Forest.commentLine
  · simp
  · have lists : newlines ";; count_lists = " = 0 := by simp [newlines]
    have atoms : newlines ", count_atoms = " = 0 := by simp [newlines]
    simp [lists, atoms]

theorem exists_items {o : Options} (prints : o.print = true ∨ o.pretty = true) :
    ∃ write : Tree → String, (∀ t, write t = t.render ∨ write t = t.pretty) ∧
      ∀ trees, Report.items o trees = String.join (trees.map fun t => write t ++ "\n") := by
  unfold Report.items
  by_cases stacked : o.pretty = true
  · exact ⟨Tree.pretty, fun _ => .inr rfl, fun _ => if_pos stacked⟩
  · simp only [if_neg stacked, if_pos (prints.resolve_right stacked)]
    exact ⟨Tree.render, fun _ => .inl rfl, fun _ => rfl⟩

theorem forest_output {o : Options} (prints : o.print = true ∨ o.pretty = true)
    {trees : List Tree} (readable : Tree.AllReadable trees) (strict : Bool) (t : Tree) :
    Grammar.Forest strict (Report.items o trees ++ Report.counts t).toList trees [] := by
  obtain ⟨write, printed, items⟩ := exists_items prints
  rw [String.toList_append, items]
  apply Grammar.Forest.lines
  · intro t item
    exact .printed ((Tree.allReadable_iff trees).mp readable t item) (printed t)
  · exact forest_counts strict t

/-! ## When the command succeeds -/

/-- Whichever way the file is opened, it is read under the settings asked for. -/
theorem reportOn_ok (o : Options) (path : String) (source : ByteSource) :
    reportOn o path (.ok source) =
      .ofResult o (parseWith o.settings (.bytes source) (some path)) := by
  unfold reportOn
  split
  · next lenient =>
      rw [lenient]
      rfl
  · rfl

theorem run_of_opened {openPath : String → Except String ByteSource} {arguments : List String}
    {o : Options} {path : String} {source : ByteSource}
    (asked : ofArguments arguments = some (o, path)) (opened : openPath path = .ok source) :
    run openPath arguments = .ofResult o (parseWith o.settings (.bytes source) (some path)) := by
  simp only [run, asked, opened, reportOn_ok]

theorem code_reportOn_error (o : Options) (path report : String) :
    (reportOn o path (.error report)).code = 1 := by
  unfold reportOn
  split <;> rfl

theorem exists_tree_of_code {o : Options} {path : String} {opened : Except String ByteSource}
    (done : (reportOn o path opened).code = 0) :
    ∃ source t, opened = .ok source ∧
      parseWith o.settings (.bytes source) (some path) = .ok t := by
  cases opened with
  | error report =>
      rw [code_reportOn_error] at done
      cases done
  | ok source =>
      rw [reportOn_ok] at done
      cases read : parseWith o.settings (.bytes source) (some path) with
      | ok t => exact ⟨source, t, rfl, read⟩
      | error failed =>
          rw [read] at done
          cases failed <;> cases done

theorem parseWith_output {o : Options} (prints : o.print = true ∨ o.pretty = true)
    {source : ByteSource} {name : Option String} {t : Tree}
    (read : parseWith o.settings (.bytes source) name = .ok t) (outputName : Option String) :
    parseWith o.settings (.text (Report.ofResult o (.ok t)).output) outputName = .ok t := by
  obtain ⟨trees, rfl, readable, room⟩ := parseWith_bytes_eq_ok read
  rw [parseWith_text_eq_ok_iff, Reader.reads_iff]
  exact ⟨trees, rfl, forest_output prints readable _ _, room⟩

/-- When the command prints the items of a file, its whole output is read under the same
    settings as the tree of the file. A file that holds this output and nothing else is
    reported on with the same options in the same way, with the same output. -/
theorem run_reproduces {openPath : String → Except String ByteSource} {arguments : List String}
    {o : Options} {path : String} (asked : ofArguments arguments = some (o, path))
    (prints : o.print = true ∨ o.pretty = true) (done : (run openPath arguments).code = 0) :
    let output := (run openPath arguments).output
    ∃ source t, openPath path = .ok source ∧
      parseWith o.settings (.bytes source) (some path) = .ok t ∧
      (∀ name, parseWith o.settings (.text output) name = .ok t) ∧
      ∀ openPath' arguments' path' copy, ofArguments arguments' = some (o, path') →
        openPath' path' = .ok copy → copy.received = Utf8.encode output.toList →
        copy.ending = none → run openPath' arguments' = run openPath arguments := by
  have report : run openPath arguments = reportOn o path (openPath path) := by
    simp only [run, asked]
  rw [report] at done
  obtain ⟨source, t, opened, read⟩ := exists_tree_of_code done
  rw [opened, reportOn_ok, read] at report
  rw [report]
  have again := parseWith_output prints read
  refine ⟨source, t, opened, read, again, ?_⟩
  intro openPath' arguments' path' copy asked' opened' delivered ended
  have read' : parseWith o.settings (.bytes copy) (some path') = .ok t := by
    rw [parseWith_bytes_of_encode delivered ended]
    exact again (some path')
  simp only [run, asked', opened', reportOn_ok, read']

theorem run_reproduces_stacked :
    let arguments := ["--pretty", "--max-depth", "2", "f"]
    let o : Options := ⟨false, true, false, some 2⟩
    let t : Tree := .list [.list [.symbol "a", .list [.string "\tx", .integer 16]]]
    let holds (text : String) (_ : String) : Except String ByteSource :=
      .ok (.ofBytes (Utf8.encode text.toList))
    let report := run (holds "(a (\"\tx\" 0x10))") arguments
    ofArguments arguments = some (o, "f") ∧ report.code = 0 ∧
      (∀ name, parseWith o.settings (.text report.output) name = .ok t) ∧
      run (holds report.output) arguments = report := by
  intro arguments o t holds report
  have asked : ofArguments arguments = some (o, "f") := by decide
  have done : report.code = 0 := by rfl
  obtain ⟨source, t', opened, read, reads, again⟩ := run_reproduces asked (.inr rfl) done
  obtain rfl := Except.ok.inj opened
  have same : t' = t := Except.ok.inj (read.symm.trans (by rfl))
  rw [same] at reads
  refine ⟨asked, done, reads, ?_⟩
  apply again _ arguments "f" _ asked rfl
  · exact ByteSource.received_ofBytes _
  · exact ByteSource.ending_ofBytes _

end CommandLine

end Sexpr
