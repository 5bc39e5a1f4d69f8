import Sexpr.Proofs.Buffers
import Sexpr.Proofs.Lines
import Sexpr.Read

/-! # How a parse can end

A cursor stands behind some of the text, and each character that it hands out moves
it on by this character. A parse ends in one of three ways: with a tree, with the
text, or at a character that is refused. In each of them it is said here which
error is reported, and where, and how far the cursor has come.
-/

namespace Sexpr

open SourceLines

@[simp] theorem mapError_ok {ε ε' α : Type} (f : ε → ε') (v : α) :
    (Except.ok v : Except ε α).mapError f = .ok v := rfl

@[simp] theorem mapError_error {ε ε' α : Type} (f : ε → ε') (e : ε) :
    (Except.error e : Except ε α).mapError f = .error (f e) := rfl

theorem mapError_eq_ok_iff {ε ε' α : Type} {f : ε → ε'} {result : Except ε α} {v : α} :
    result.mapError f = .ok v ↔ result = .ok v := by
  cases result <;> simp

theorem mapError_eq_error_iff {ε ε' α : Type} {f : ε → ε'} {result : Except ε α} {e : ε'} :
    result.mapError f = .error e ↔ ∃ e', result = .error e' ∧ f e' = e := by
  cases result <;> simp

namespace Cursor

/-! ## Handing out characters -/

@[simp] theorem source_ofText (text : String) (fileName : Option String) :
    (ofText text fileName).source = text := rfl

@[simp] theorem rest_ofText (text : String) (fileName : Option String) :
    (ofText text fileName).rest = text.toList := rfl

@[simp] theorem nextPos_ofText (text : String) (fileName : Option String) :
    (ofText text fileName).nextPos = Pos.start := rfl

@[simp] theorem source_next (cur : Cursor) : cur.next.2.source = cur.source := by
  unfold next
  split <;> rfl

@[simp] theorem fileName_next (cur : Cursor) : cur.next.2.fileName = cur.fileName := by
  unfold next
  split <;> rfl

@[simp] theorem rest_next (cur : Cursor) : cur.next.2.rest = cur.rest.tail := by
  unfold next
  split <;> simp_all

@[simp] theorem pos_next (cur : Cursor) : cur.next.2.pos = cur.nextPos := by
  unfold next
  split <;> rfl

@[simp] theorem nextPos_next (cur : Cursor) :
    cur.next.2.nextPos = cur.nextPos.afterAll (cur.rest.take 1) := by
  unfold next
  split <;> simp_all [nextPos]

@[simp] theorem source_advance (n : Nat) (cur : Cursor) : (cur.advance n).source = cur.source := by
  induction n generalizing cur with
  | zero => rfl
  | succ n ih => rw [advance, ih, source_next]

@[simp] theorem fileName_advance (n : Nat) (cur : Cursor) :
    (cur.advance n).fileName = cur.fileName := by
  induction n generalizing cur with
  | zero => rfl
  | succ n ih => rw [advance, ih, fileName_next]

@[simp] theorem rest_advance (n : Nat) (cur : Cursor) :
    (cur.advance n).rest = cur.rest.drop n := by
  induction n generalizing cur with
  | zero => rfl
  | succ n ih => rw [advance, ih, rest_next, List.drop_tail]

@[simp] theorem nextPos_advance (n : Nat) (cur : Cursor) :
    (cur.advance n).nextPos = cur.nextPos.afterAll (cur.rest.take n) := by
  induction n generalizing cur with
  | zero => rfl
  | succ n ih =>
      rw [advance, ih, nextPos_next, rest_next, ← Pos.afterAll_append]
      cases cur.rest <;> simp

theorem pos_advance_succ (n : Nat) (cur : Cursor) :
    (cur.advance (n + 1)).pos = cur.nextPos.afterAll (cur.rest.take n) := by
  rw [advance_add]
  change (cur.advance n).next.2.pos = _
  rw [pos_next, nextPos_advance]

theorem next_exhausted (cur : Cursor) :
    (cur.advance (cur.rest.length + 1)).next = (none, cur.advance (cur.rest.length + 1)) := by
  have empty : (cur.advance cur.rest.length).rest = [] := by simp
  rw [advance_add]
  generalize cur.advance cur.rest.length = stop at empty
  simp [advance, next, empty, nextPos]

@[simp] theorem fault_errorAtPos (cur : Cursor) (fault : Fault) (pos : Pos) (markSize : Nat) :
    (cur.errorAtPos fault pos markSize).fault = fault := rfl

@[simp] theorem pos_errorAtPos (cur : Cursor) (fault : Fault) (pos : Pos) (markSize : Nat) :
    (cur.errorAtPos fault pos markSize).pos = pos := rfl

@[simp] theorem markSize_errorAtPos (cur : Cursor) (fault : Fault) (pos : Pos) (markSize : Nat) :
    (cur.errorAtPos fault pos markSize).markSize = markSize := rfl

@[simp] theorem errorAtPos_advance (n : Nat) (cur : Cursor) (fault : Fault) (pos : Pos)
    (markSize : Nat) :
    (cur.advance n).errorAtPos fault pos markSize = cur.errorAtPos fault pos markSize := by
  simp [errorAtPos]

/-- The cursor stands behind these characters of its text. -/
structure StandsBehind (cur : Cursor) (before : List Char) : Prop where
  source : cur.source.toList = before ++ cur.rest
  nextPos : cur.nextPos = Pos.start.afterAll before

theorem standsBehind_ofText (text : String) (fileName : Option String) :
    (ofText text fileName).StandsBehind [] := ⟨rfl, rfl⟩

theorem StandsBehind.advance {cur : Cursor} {before : List Char} (h : cur.StandsBehind before)
    (n : Nat) : (cur.advance n).StandsBehind (before ++ cur.rest.take n) := by
  constructor
  · rw [source_advance, rest_advance, List.append_assoc, List.take_append_drop, h.source]
  · rw [nextPos_advance, h.nextPos, Pos.afterAll_append]

end Cursor

/-! ## Where a fault is shown -/

namespace Fault

def atEnd : Fault → Bool
  | .unterminatedString | .unexpectedEnd => true
  | _ => false

/-- The place of a fault that is found at a character: this character, or the one
    before it if the character only shows that a word has ended. -/
def place : Fault → Pos → Pos
  | .malformedInteger _ _, p => ⟨p.line, p.col - 1⟩
  | _, p => p

def width : Fault → Nat
  | .malformedInteger _ text => text.length
  | .invalidEscapedChar _ => 2
  | _ => 1

theorem width_of_atEnd {fault : Fault} (h : fault.atEnd = true) : fault.width = 1 := by
  cases fault with
  | unterminatedString | unexpectedEnd => rfl
  | _ => cases h

end Fault

theorem Reader.Refusal.atEnd_eq_false {settings : Settings} {r : Reader} {c : Char} {fault : Fault}
    (h : Refusal settings r c fault) : fault.atEnd = false := by
  cases h <;> rfl

theorem Reader.atEnd_of_finish {r : Reader} {fault : Fault} (h : r.finish = .error fault) :
    fault.atEnd = true := by
  unfold finish at h
  split at h
  · cases h; rfl
  · cases h; rfl
  · cases h; rfl
  all_goals
    split at h <;> cases h
    rfl

namespace Cursor

theorem errorAt_last (cur : Cursor) (fault : Fault) (markSize : Nat) :
    cur.errorAt fault (some (-1)) (some (-1)) markSize =
      cur.errorAtPos fault (lastPlace cur.source.toList) markSize := rfl

theorem locate_of_not_atEnd {cur : Cursor} {fault : Fault} (h : fault.atEnd = false) :
    cur.locate fault = cur.errorAtPos fault (fault.place cur.pos) fault.width := by
  cases fault with
  | unterminatedString | unexpectedEnd => cases h
  | _ => rfl

theorem locate_of_atEnd {cur : Cursor} {fault : Fault} (h : fault.atEnd = true) :
    cur.locate fault = cur.errorAtPos fault (lastPlace cur.source.toList) 1 := by
  cases fault with
  | unterminatedString | unexpectedEnd => exact errorAt_last cur _ 1
  | _ => cases h

/-! ## The three ends of a parse -/

/-- Every way in which a parse can end, with its result and the cursor it leaves. -/
inductive Outcome (settings : Settings) (cur : Cursor) :
    Except SyntaxError Tree → Cursor → Prop where
  | finished {r v} (run : Reader.start.run settings cur.rest = .ok r) (tree : r.finish = .ok v) :
      Outcome settings cur (.ok v) (cur.advance (cur.rest.length + 1))
  | ended {r fault} (run : Reader.start.run settings cur.rest = .ok r)
      (early : r.finish = .error fault) :
      Outcome settings cur (.error (cur.errorAtPos fault (lastPlace cur.source.toList) 1))
        (cur.advance (cur.rest.length + 1))
  | refused {read c rest r fault} (split : cur.rest = read ++ c :: rest)
      (run : Reader.start.run settings read = .ok r) (refusal : r.Refusal settings c fault) :
      Outcome settings cur
        (.error (cur.errorAtPos fault (fault.place (cur.nextPos.afterAll read)) fault.width))
        (cur.advance (read.length + 1))

theorem Outcome.parse_eq {settings : Settings} {cur stop : Cursor}
    {result : Except SyntaxError Tree} (h : Outcome settings cur result stop) :
    cur.parse settings = (result, stop) := by
  rw [parse_eq_reader]
  cases h with
  | finished run tree => simp only [run, tree, mapError_ok]
  | ended run early =>
      simp only [run, early, mapError_error, locate_of_atEnd (Reader.atEnd_of_finish early),
        source_advance, errorAtPos_advance]
  | @refused read c rest r fault split run refusal =>
      have failed : Reader.start.run settings cur.rest = .error (fault, rest) :=
        Reader.run_eq_error_iff.mpr ⟨read, c, r, split, run, refusal⟩
      have taken : cur.rest.length - rest.length = read.length + 1 := by simp [split]; omega
      have handed : cur.rest.take read.length = read := by simp [split]
      simp only [failed, taken, locate_of_not_atEnd refusal.atEnd_eq_false, errorAtPos_advance,
        pos_advance_succ, handed]

theorem parse_outcome (settings : Settings) (cur : Cursor) :
    ∃ result stop, cur.parse settings = (result, stop) ∧ Outcome settings cur result stop := by
  cases run : Reader.start.run settings cur.rest with
  | ok r =>
      cases ending : r.finish with
      | ok v =>
          have outcome : Outcome settings cur _ _ := .finished run ending
          exact ⟨_, _, outcome.parse_eq, outcome⟩
      | error fault =>
          have outcome : Outcome settings cur _ _ := .ended run ending
          exact ⟨_, _, outcome.parse_eq, outcome⟩
  | error failed =>
      obtain ⟨read, c, r, split, run, refusal⟩ := Reader.run_eq_error_iff.mp run
      have outcome : Outcome settings cur _ _ := .refused split run refusal
      exact ⟨_, _, outcome.parse_eq, outcome⟩

inductive Failure (settings : Settings) (cur : Cursor) : SyntaxError → Prop where
  | ended {r fault} (run : Reader.start.run settings cur.rest = .ok r)
      (early : r.finish = .error fault) :
      Failure settings cur (cur.errorAtPos fault (lastPlace cur.source.toList) 1)
  | refused {read c rest r fault} (split : cur.rest = read ++ c :: rest)
      (run : Reader.start.run settings read = .ok r) (refusal : r.Refusal settings c fault) :
      Failure settings cur
        (cur.errorAtPos fault (fault.place (cur.nextPos.afterAll read)) fault.width)

section Failing

variable {settings : Settings} {cur : Cursor} {e : SyntaxError}

theorem failure_of_error (failed : (cur.parse settings).1 = .error e) : Failure settings cur e := by
  obtain ⟨result, stop, parsed, outcome⟩ := parse_outcome settings cur
  rw [parsed] at failed
  cases outcome with
  | finished run tree => cases failed
  | ended run early =>
      obtain rfl := Except.error.inj failed
      exact .ended run early
  | refused split run refusal =>
      obtain rfl := Except.error.inj failed
      exact .refused split run refusal

/-- An error says what is wrong in the whole text, wherever parsing began, and it marks as
    many characters as its fault is about. -/
theorem eq_errorAtPos_of_error (failed : (cur.parse settings).1 = .error e) :
    e = cur.errorAtPos e.fault e.pos e.fault.width := by
  cases failure_of_error failed with
  | ended run early =>
      rw [fault_errorAtPos, pos_errorAtPos, Fault.width_of_atEnd (Reader.atEnd_of_finish early)]
  | refused => rfl

theorem source_of_error (failed : (cur.parse settings).1 = .error e) :
    e.diagnostic.source = cur.source :=
  congrArg (·.diagnostic.source) (eq_errorAtPos_of_error failed)

theorem markSize_of_error (failed : (cur.parse settings).1 = .error e) :
    e.markSize = e.fault.width :=
  congrArg SyntaxError.markSize (eq_errorAtPos_of_error failed)

theorem finish_of_error (failed : (cur.parse settings).1 = .error e)
    (early : e.fault.atEnd = true) :
    ∃ r, Reader.start.run settings cur.rest = .ok r ∧ r.finish = .error e.fault := by
  cases failure_of_error failed with
  | ended run ending => exact ⟨_, run, ending⟩
  | refused split run refusal =>
      rw [fault_errorAtPos, refusal.atEnd_eq_false] at early
      cases early

theorem pos_of_error_atEnd (failed : (cur.parse settings).1 = .error e)
    (early : e.fault.atEnd = true) : e.pos = lastPlace cur.source.toList := by
  cases failure_of_error failed with
  | ended => rfl
  | refused split run refusal =>
      rw [fault_errorAtPos, refusal.atEnd_eq_false] at early
      cases early

/-- A fault inside the text stops the cursor right behind the character that the
    reader refuses. -/
theorem stop_of_error (failed : (cur.parse settings).1 = .error e)
    (inside : e.fault.atEnd = false) :
    ∃ read c rest, cur.rest = read ++ c :: rest ∧
      (∃ r, Reader.start.run settings read = .ok r ∧ r.feed settings c = .error e.fault) ∧
      (cur.parse settings).2 = cur.advance (read.length + 1) := by
  cases failure_of_error failed with
  | ended run early =>
      rw [fault_errorAtPos, Reader.atEnd_of_finish early] at inside
      cases inside
  | @refused read c rest r fault split run refusal =>
      have outcome : Outcome settings cur _ _ := .refused split run refusal
      refine ⟨read, c, rest, split, ⟨r, run, Reader.feed_of_refusal refusal⟩, ?_⟩
      rw [outcome.parse_eq]

end Failing

theorem stop_exhausted {settings : Settings} {cur : Cursor}
    (h : ∀ e, (cur.parse settings).1 = .error e → e.fault.atEnd = true) :
    (cur.parse settings).2.rest = [] ∧
      (cur.parse settings).2.next = (none, (cur.parse settings).2) := by
  obtain ⟨result, stop, parsed, outcome⟩ := parse_outcome settings cur
  rw [parsed] at h ⊢
  cases outcome with
  | finished | ended => exact ⟨by simp, next_exhausted cur⟩
  | refused split run refusal =>
      exact absurd (h _ rfl) (by simp [refusal.atEnd_eq_false])

end Cursor

theorem parseWith_text (settings : Settings) (text : String) (fileName : Option String) :
    parseWith settings (.text text) fileName =
      ((Cursor.ofText text fileName).parse settings).1.mapError .syntactic := rfl

theorem parseWith_text_eq_error_iff {settings : Settings} {text : String}
    {fileName : Option String} {e : SyntaxError} :
    parseWith settings (.text text) fileName = .error (.syntactic e) ↔
      ((Cursor.ofText text fileName).parse settings).1 = .error e := by
  rw [parseWith_text, mapError_eq_error_iff]
  simp

end Sexpr
