import Sexpr.Proofs.Canonical
import Sexpr.Proofs.ErrorRows
import Sexpr.Proofs.Restrictions

/-! # The command under a limit

A limit can be given in front of any other arguments. It makes a difference only to a file
whose lists nest too deep for it: of every other file the command reports what it reports
without a limit, be it a tree, a syntax error, or bytes that are no text.
-/

namespace Sexpr.CommandLine

/-! ## Asking for a limit -/

namespace Arguments

def Unlimited (a : Arguments) : Prop :=
  a.options.maxDepth = none ∧ a.lacksDepth = false

theorem exists_repr_eq_cons (n : Nat) :
    ∃ c digits, n.repr.toList = c :: digits ∧ c ≠ '-' ∧ c ≠ '+' ∧
      Numeral.value 10 (c :: digits) = some n := by
  have written : n.repr.toList = Nat.toDigits 10 n := by simp
  cases digits : Nat.toDigits 10 n with
  | nil => exact absurd digits Nat.toDigits_ne_nil
  | cons c rest =>
      have digit : c.isDigit = true := Numeral.isDigit_toDigits n c (digits ▸ List.mem_cons_self)
      refine ⟨c, rest, written.trans digits, ?_, ?_, digits ▸ Numeral.value_toDigits n⟩
      all_goals
        rintro rfl
        cases digit

theorem depthOf_repr {n : Nat} (small : n ≤ greatestDepth) : depthOf n.repr = some n := by
  obtain ⟨c, digits, written, minus, plus, value⟩ := exists_repr_eq_cons n
  simp [depthOf, written, minus, plus, value, small]

theorem isPlain_repr (n : Nat) : isPlain n.repr = true := by
  obtain ⟨c, digits, written, minus, -⟩ := exists_repr_eq_cons n
  simp [isPlain, written, minus]

theorem take_limit (a : Arguments) {n : Nat} (small : n ≤ greatestDepth) (arguments : List String) :
    a.take ("--max-depth" :: toString n :: arguments) = (a.setDepth n).take arguments := by
  rw [Nat.toString_eq_repr, take, if_pos (isPlain_repr n), depthOf_repr small, Option.bind_some]

theorem unlimited_of_setFlag {a b : Arguments} {argument : String}
    (set : a.setFlag argument = some b) (h : b.Unlimited) : a.Unlimited := by
  unfold setFlag at set
  split at set <;> cases set <;> exact h

theorem setFlag_setDepth (a : Arguments) (n : Nat) (argument : String) :
    (a.setDepth n).setFlag argument = (a.setFlag argument).map (·.setDepth n) := by
  unfold setFlag
  split <;> rfl

theorem not_unlimited_setDepth (a : Arguments) (n : Nat) : ¬ (a.setDepth n).Unlimited := by
  simp [Unlimited, setDepth]

theorem not_unlimited_lackDepth (a : Arguments) : ¬ a.lackDepth.Unlimited := by
  simp [Unlimited, lackDepth]

/-- What is said about a limit is never taken back. So where nothing has been said about one in
    the end, one that is set before the arguments is still set behind them. -/
theorem take_setDepth {a b : Arguments} {arguments : List String}
    (taken : a.take arguments = some b) (h : b.Unlimited) (n : Nat) :
    a.Unlimited ∧ (a.setDepth n).take arguments = some (b.setDepth n) := by
  fun_induction take a arguments with
  | case1 a | case2 a paths =>
      cases taken
      exact ⟨h, rfl⟩
  | case3 a =>
      cases taken
      exact absurd h (not_unlimited_lackDepth a)
  | case4 a next rest plain ih =>
      obtain ⟨m, -, taken⟩ := Option.bind_eq_some_iff.mp taken
      exact absurd (ih m taken).1 (not_unlimited_setDepth a m)
  | case5 a next rest plain ih => exact absurd (ih taken).1 (not_unlimited_lackDepth a)
  | case6 a argument rest _ _ _ plain ih =>
      obtain ⟨unlimited, behind⟩ := ih taken
      refine ⟨unlimited, ?_⟩
      rw [take, if_pos plain]
      · exact behind
      all_goals assumption
  | case7 a argument rest _ _ _ plain value attached ih =>
      obtain ⟨m, -, taken⟩ := Option.bind_eq_some_iff.mp taken
      exact absurd (ih m taken).1 (not_unlimited_setDepth a m)
  | case8 a argument rest _ _ _ plain attached ih =>
      obtain ⟨next, set, taken⟩ := Option.bind_eq_some_iff.mp taken
      obtain ⟨unlimited, behind⟩ := ih next taken
      refine ⟨unlimited_of_setFlag set unlimited, ?_⟩
      rw [take, if_neg plain, attached, setFlag_setDepth, set]
      · exact behind
      all_goals assumption

theorem complete_eq_some_iff {a : Arguments} {o : Options} {path : String} :
    a.complete = some (o, path) ↔ a = ⟨o, false, [path]⟩ ∧ path ≠ "" := by
  obtain ⟨options, lacksDepth, paths⟩ := a
  simp only [complete]
  split
  · next name =>
      by_cases empty : name = ""
      · simp_all [eq_comm]
      · simp only [if_neg empty, Option.some.injEq, Prod.mk.injEq, Arguments.mk.injEq,
          List.cons.injEq, and_true, true_and]
        exact ⟨fun h => ⟨h, h.2 ▸ empty⟩, And.left⟩
  · next other =>
      simp only [reduceCtorEq, false_iff, not_and]
      rintro ⟨rfl, rfl, rfl⟩
      exact absurd rfl (other path rfl)

end Arguments

theorem ofArguments_limit {arguments : List String} {o : Options} {path : String}
    (asked : ofArguments arguments = some (o, path)) (unlimited : o.maxDepth = none) {n : Nat}
    (small : n ≤ Arguments.greatestDepth) :
    ofArguments ("--max-depth" :: toString n :: arguments) =
      some ({ o with maxDepth := some n }, path) := by
  obtain ⟨a, taken, complete⟩ := Option.bind_eq_some_iff.mp asked
  obtain ⟨rfl, named⟩ := Arguments.complete_eq_some_iff.mp complete
  rw [ofArguments, Arguments.take_limit _ small, (Arguments.take_setDepth taken ⟨unlimited, rfl⟩ n).2,
    Option.bind_some, Arguments.complete_eq_some_iff]
  exact ⟨rfl, named⟩

/-! ## Reports under a limit -/

namespace Report

/-- The report says that the lists of the file at `path` nest deeper than `n` levels, and it
    shows where. -/
def SaysTooDeep (path : String) (n : Nat) (r : Report) : Prop :=
  ∃ e : SyntaxError, e.fault = .nestingTooDeep n ∧ e.diagnostic.message = e.fault.message ∧
    e.diagnostic.fileName = some path ∧
    r = ⟨1, "", path ++ ":" ++ toString (e.pos.line + 1) ++ ":" ++ toString (e.pos.col + 1) ++
      ": lists nested deeper than " ++ toString n ++ " levels\n" ++ e.diagnostic.sourceLine ++
      "\n" ++ String.ofList (List.replicate e.pos.col ' ') ++ "^\n"⟩

theorem render_of_mark {e : SyntaxError} {path : String} (named : e.diagnostic.fileName = some path)
    (single : e.markSize = 1) :
    e.render ++ "\n" = path ++ ":" ++ toString (e.pos.line + 1) ++ ":" ++
      toString (e.pos.col + 1) ++ ": " ++ e.diagnostic.message ++ "\n" ++
      e.diagnostic.sourceLine ++ "\n" ++ String.ofList (List.replicate e.pos.col ' ') ++
      "^\n" := by
  simp only [SyntaxError.markSize] at single
  simp [SyntaxError.render, SyntaxError.pos, Diagnostic.render, Diagnostic.heading, named,
    Pos.render, Diagnostic.marks, Diagnostic.repeated, single, String.append_assoc]

theorem SaysTooDeep.code_eq {path : String} {n : Nat} {r : Report} (h : r.SaysTooDeep path n) :
    r.code = 1 := by
  obtain ⟨e, -, -, -, rfl⟩ := h
  rfl

theorem saysTooDeep_of_error {o : Options} {text path : String} {settings : Settings}
    {e : SyntaxError} {n : Nat}
    (failed : parseWith settings (.text text) (some path) = .error (.syntactic e))
    (deep : e.fault = .nestingTooDeep n) :
    (ofResult o (parseWith settings (.text text) (some path))).SaysTooDeep path n := by
  have located := parseWith_text_eq_error_iff.mp failed
  have message := Cursor.message_of_error located
  have named := Cursor.fileName_of_error located
  have single : e.markSize = 1 := by
    rw [Cursor.markSize_of_error located, deep]
    rfl
  have said : (Fault.nestingTooDeep n).message =
      "lists nested deeper than " ++ toString n ++ " levels" := rfl
  have shown := render_of_mark named single
  rw [message, deep, said] at shown
  refine ⟨e, deep, message, named, ?_⟩
  rw [failed]
  refine congrArg (Report.mk 1 "") (shown.trans ?_)
  have begins : ": lists nested deeper than " = ": " ++ "lists nested deeper than " := by decide
  have ends : " levels\n" = " levels" ++ "\n" := by decide
  rw [begins, ends]
  simp only [String.append_assoc]

theorem ofResult_limit (o : Options) (depth : Option Nat) (result : Except ReadError Tree) :
    ofResult { o with maxDepth := depth } result = ofResult o result := by
  cases result with
  | ok t => rfl
  | error failed => cases failed <;> rfl

end Report

/-- Whatever a file holds, a limit changes the report on it only to one of lists that nest too
    deep. -/
theorem ofResult_limited_or (o : Options) (path : String) (source : ByteSource) (n : Nat) :
    Report.ofResult o (parseWith ⟨some n, false⟩ (.bytes source) (some path)) =
        .ofResult o (parseWith .lenient (.bytes source) (some path)) ∨
      (Report.ofResult o (parseWith ⟨some n, false⟩ (.bytes source) (some path))).SaysTooDeep
        path n := by
  cases content : source.readAll with
  | error error =>
      rw [parseWith_bytes_of_error content, parseWith_bytes_of_error content]
      exact .inl rfl
  | ok text =>
      rw [parseWith_bytes_of_readAll content, parseWith_bytes_of_readAll content]
      rcases parseWith_limited_or text (some path) n false with same | ⟨e, failed, deep⟩
      · exact .inl (congrArg _ same)
      · exact .inr (Report.saysTooDeep_of_error failed deep)

/-- Of a file that is read without a limit, exactly the limits below the nesting of its lists
    are exceeded. -/
theorem saysTooDeep_iff_lt {o : Options} {path : String} {source : ByteSource} {trees : List Tree}
    (read : parseWith .lenient (.bytes source) (some path) = .ok (.list trees)) (n : Nat) :
    (Report.ofResult o (parseWith ⟨some n, false⟩ (.bytes source) (some path))).SaysTooDeep
      path n ↔ n < Tree.nestingAll trees := by
  obtain ⟨text, content, read⟩ := exists_text_of_parseWith_bytes read
  rw [parseWith_bytes_of_readAll content]
  constructor
  · intro refused
    by_contra room
    rw [parseWith_limited_of_le read (Nat.le_of_not_lt room)] at refused
    cases refused.code_eq
  · intro deep
    obtain ⟨e, failed, fault⟩ := parseWith_limited_of_lt read deep
    exact Report.saysTooDeep_of_error failed fault

/-- With a limit the command reports on a file that can be opened what it reports without one, in
    every part, or else that the lists of the file nest too deep. If it succeeds without a limit,
    then the lists of the tree decide which of the two it is. Any limit can be asked for in
    front of the other arguments. -/
theorem run_limited {openPath : String → Except String ByteSource} {arguments : List String}
    {print pretty : Bool} {path : String} {source : ByteSource}
    (asked : ofArguments arguments = some (⟨print, pretty, false, none⟩, path))
    (opened : openPath path = .ok source) (n : Nat) :
    (n ≤ Arguments.greatestDepth → ofArguments ("--max-depth" :: toString n :: arguments) =
      some (⟨print, pretty, false, some n⟩, path)) ∧
    ∀ limited, ofArguments limited = some (⟨print, pretty, false, some n⟩, path) →
      (run openPath limited = run openPath arguments ∨
        (run openPath limited).SaysTooDeep path n) ∧
      ((run openPath arguments).code = 0 →
        ∃ trees, parseFile path (openPath path) = .ok (.list trees) ∧
          ((run openPath limited).SaysTooDeep path n ↔ n < Tree.nestingAll trees)) := by
  refine ⟨ofArguments_limit asked rfl, ?_⟩
  intro limited askedLimit
  have reported := run_of_opened asked opened
  have reportedLimit : run openPath limited = .ofResult ⟨print, pretty, false, none⟩
      (parseWith ⟨some n, false⟩ (.bytes source) (some path)) :=
    (run_of_opened askedLimit opened).trans (Report.ofResult_limit ⟨print, pretty, false, none⟩ _ _)
  rw [reportedLimit]
  constructor
  · rw [reported]
    exact ofResult_limited_or _ path source n
  · intro done
    simp only [run, asked] at done
    obtain ⟨source', t, same, read⟩ := exists_tree_of_code done
    obtain rfl := Except.ok.inj (opened.symm.trans same)
    obtain ⟨trees, rfl, -, -⟩ := parseWith_bytes_eq_ok read
    rw [opened]
    exact ⟨trees, read, saysTooDeep_iff_lt read n⟩

theorem run_limited_nested :
    let openPath (_ : String) : Except String ByteSource :=
      .ok (.ofBytes (Utf8.encode "(a)\n(b (ü))".toList))
    let arguments := ["--print", "f"]
    let limited := ["f", "--max-depth=1", "--print"]
    let further := ["--max-depth", toString 2, "--print", "f"]
    ofArguments arguments = some (⟨true, false, false, none⟩, "f") ∧
      ofArguments limited = some (⟨true, false, false, some 1⟩, "f") ∧
      ofArguments further = some (⟨true, false, false, some 2⟩, "f") ∧
      (run openPath limited).SaysTooDeep "f" 1 ∧ run openPath further = run openPath arguments := by
  intro openPath arguments limited further
  have asked : ofArguments arguments = some (⟨true, false, false, none⟩, "f") := by decide
  have askedOne : ofArguments limited = some (⟨true, false, false, some 1⟩, "f") := by decide
  have opened : openPath "f" = .ok (.ofBytes (Utf8.encode "(a)\n(b (ü))".toList)) := rfl
  have done : (run openPath arguments).code = 0 := by rfl
  have askedTwo := (run_limited asked opened 2).1 (by decide)
  obtain ⟨-, one⟩ := (run_limited asked opened 1).2 limited askedOne
  obtain ⟨same, two⟩ := (run_limited asked opened 2).2 further askedTwo
  obtain ⟨trees, read, exceeded⟩ := one done
  obtain ⟨trees', read', exceeded'⟩ := two done
  have tree : parseFile "f" (openPath "f") =
      .ok (.list [.list [.symbol "a"], .list [.symbol "b", .list [.symbol "ü"]]]) := by rfl
  obtain rfl := Tree.list.inj (Except.ok.inj (read.symm.trans tree))
  obtain rfl := Tree.list.inj (Except.ok.inj (read'.symm.trans tree))
  refine ⟨asked, askedOne, askedTwo, exceeded.mpr (by decide), same.resolve_right ?_⟩
  rw [exceeded']
  decide

end Sexpr.CommandLine
