import Sexpr.Proofs.Regions
import Sexpr.Proofs.RoundTrip

/-! # The state of a machine in the middle of a text

The mode and the number of open lists can be told from the characters that have been read,
whatever the lists hold. A buffer has characters only in the modes that collect them, and
they are those of the token in progress: nothing is left over from a token before it. The
letters of a word are the last characters read, so that there is room for them before the
next one on its line.
-/

namespace Sexpr

open Grammar

/-- What holds of a machine behind these characters. -/
structure Machine.Consistent (settings : Settings) (read : List Char) (m : Machine) : Prop where
  mode : m.mode = Region.atEnd read
  word : m.word ≠ [] → m.mode = .plain
  letters : ∀ c ∈ m.word, Word.isDelimiter c = false
  literal : m.literal ≠ [] → m.mode = .literal ∨ m.mode = .escape
  /-- The text of the literal in progress is what its source so far stands for. -/
  body : m.mode = .literal → ∃ before source, read = before ++ '"' :: source ∧
    Region.atEnd before = .plain ∧ Body settings.strictEscapes source m.literal.reverse
  escape : m.mode = .escape → ∃ before source, read = before ++ '"' :: source ++ ['\\'] ∧
    Region.atEnd before = .plain ∧ Body settings.strictEscapes source m.literal.reverse
  depth : ∀ limit, settings.maxDepth = some limit → m.frames.count ≤ limit
  /-- The lists that are open are those that have not been closed, as far as can be seen. -/
  balance : m.frames.count + (Region.plain.outside read).count ')' =
    (Region.plain.outside read).count '('
  names : ∀ items ∈ m.items :: m.frames.lists, Tree.AllReadable items
  /-- The letters are the last characters read, as far back as there is no delimiter. -/
  last : m.word.reverse <:+ read ∧ pendingWord read = m.word.reverse
  line : '\n' ∉ m.word
  /-- Whatever text they stand in, there are at least as many columns as letters before the next
      character. An error about the word is shown one column before it. -/
  column : ∀ (cur : Cursor) (c : Char) (rest : List Char), cur.rest = read ++ c :: rest →
    let stop := cur.advance (read.length + 1)
    m.word.length ≤ stop.pos.col ∧
      (m.word ≠ [] → ∀ radix text,
        (stop.locate (.malformedInteger radix text)).pos.col + 1 = stop.pos.col)

namespace Reader

variable {settings : Settings} {r r' : Reader} {c : Char} {read : List Char}

/-! ## The buffers -/

@[simp] theorem frames_machine (r : Reader) : r.machine.frames = r.frames := by
  cases token : r.token <;> simp only [machine, token]

@[simp] theorem items_machine (r : Reader) : r.machine.items = r.items := by
  cases token : r.token <;> simp only [machine, token]

@[simp] theorem mode_machine (r : Reader) : r.machine.mode = r.token.region := by
  cases token : r.token <;> simp only [machine, token, Token.region]

theorem word_machine (r : Reader) : r.machine.word.reverse = r.token.letters := by
  cases token : r.token <;> simp only [machine, token, Token.letters, List.reverse_nil]

theorem mode_of_word (h : r.machine.word ≠ []) : r.machine.mode = .plain := by
  cases token : r.token <;> simp_all [machine]

theorem mode_of_literal (h : r.machine.literal ≠ []) :
    r.machine.mode = .literal ∨ r.machine.mode = .escape := by
  cases token : r.token <;> simp_all [machine]

/-! ## The token in progress -/

theorem pending_of_run (run : start.run settings read = .ok r) :
    ∃ before seen, read = before ++ seen ∧ Region.atEnd before = .plain ∧
      Pending settings.strictEscapes r.token seen := by
  refine run_induction run ⟨[], [], rfl, rfl, .word (by simp)⟩ ?_
  rintro read r c r' run step ⟨before, seen, rfl, plain, pending⟩
  have all := run_concat_eq_ok_iff.mpr ⟨r, run, step⟩
  obtain ⟨seen', pending', origin, -⟩ := step.demands pending
  -- The token goes on, or it begins at this character, or it begins behind it.
  rcases origin with rfl | ⟨⟨letters, word⟩, rfl⟩ | ⟨word, rfl⟩
  · exact ⟨before, _, by simp, plain, pending'⟩
  · exact ⟨before ++ seen, _, rfl, by rw [region_of_run run, word]; rfl, pending'⟩
  · exact ⟨before ++ seen ++ [c], _, by simp, by rw [region_of_run all, word]; rfl, pending'⟩

theorem Pending.source_of_literal {strict : Bool} {seen : List Char}
    (pending : Pending strict r.token seen) (literal : r.machine.mode = .literal) :
    ∃ source, seen = '"' :: source ∧ Body strict source r.machine.literal.reverse := by
  obtain ⟨token, frames, items⟩ := r
  cases pending with
  | literal content => exact ⟨_, rfl, content⟩
  | word | comment | escape => cases literal

theorem Pending.source_of_escape {strict : Bool} {seen : List Char}
    (pending : Pending strict r.token seen) (escape : r.machine.mode = .escape) :
    ∃ source, seen = '"' :: source ++ ['\\'] ∧ Body strict source r.machine.literal.reverse := by
  obtain ⟨token, frames, items⟩ := r
  cases pending with
  | escape content => exact ⟨_, rfl, content⟩
  | word | comment | literal => cases escape

/-! ## The open lists -/

theorem Step.count_le (h : Step settings r c r')
    (before : ∀ limit, settings.maxDepth = some limit → r.frames.count ≤ limit) :
    ∀ limit, settings.maxDepth = some limit → r'.frames.count ≤ limit := by
  cases h with
  | opened _ room => exact room
  | closed =>
      intro limit limited
      exact Nat.le_of_succ_le (before limit limited)
  | letter | blank | semicolon | quote | commented | commentEnd | plain | backslash | literalEnd
  | escaped | kept => exact before

theorem Step.balance (h : Step settings r c r') :
    r'.frames.count + [r.token.region.shown c].count ')' =
      r.frames.count + [r.token.region.shown c].count '(' := by
  cases h with
  | letter plain =>
      have other : c ≠ '(' ∧ c ≠ ')' :=
        ⟨ne_of_isDelimiter plain rfl, ne_of_isDelimiter plain rfl⟩
      simp [Token.region, Region.shown, other]
  | blank blank ended =>
      have other : c ≠ '(' ∧ c ≠ ')' := by rcases blank with rfl | rfl | rfl <;> decide
      simp [Token.region, Region.shown, other]
  | opened | closed => simp [Token.region, Region.shown]
  | semicolon | quote | commented | commentEnd | plain | backslash | literalEnd | escaped | kept =>
      simp [Token.region, Region.shown]

theorem WordEnd.allReadable {letters : List Char} {items items' : List Tree}
    (h : WordEnd letters items items') (plain : ∀ c ∈ letters.reverse, Word.isDelimiter c = false)
    (before : Tree.AllReadable items) : Tree.AllReadable items' := by
  cases h with
  | noWord => exact before
  | word nonempty value =>
      exact ⟨value.readable (by simpa using nonempty) plain, before⟩

theorem Step.allReadable (h : Step settings r c r')
    (letters : ∀ c ∈ r.token.letters, Word.isDelimiter c = false)
    (before : ∀ items ∈ r.items :: r.frames.lists, Tree.AllReadable items) :
    ∀ items ∈ r'.items :: r'.frames.lists, Tree.AllReadable items := by
  obtain ⟨innermost, around⟩ := List.forall_mem_cons.mp before
  cases h with
  | letter | commented | commentEnd | plain | backslash | escaped | kept => exact before
  | blank _ ended | semicolon ended | quote ended =>
      exact List.forall_mem_cons.mpr ⟨ended.allReadable letters innermost, around⟩
  | opened ended =>
      have waiting := ended.allReadable letters innermost
      exact List.forall_mem_cons.mpr ⟨trivial, List.forall_mem_cons.mpr ⟨waiting, around⟩⟩
  | @closed word frames outer items items' ended =>
      obtain ⟨outer, around⟩ := List.forall_mem_cons.mp around
      have inner : Tree.AllReadable items'.reverse := by
        simpa [Tree.allReadable_iff] using ended.allReadable letters innermost
      exact List.forall_mem_cons.mpr ⟨⟨inner, outer⟩, around⟩
  | literalEnd => exact List.forall_mem_cons.mpr ⟨⟨trivial, innermost⟩, around⟩

theorem allReadable_of_run (run : start.run settings read = .ok r) :
    ∀ items ∈ r.items :: r.frames.lists, Tree.AllReadable items := by
  refine run_induction run (by simp [start, Tree.AllReadable]) ?_
  intro read r c r' run step before
  exact step.allReadable (isDelimiter_letters run) before

theorem count_le_of_run (run : start.run settings read = .ok r) :
    ∀ limit, settings.maxDepth = some limit → r.frames.count ≤ limit := by
  refine run_induction run (fun limit _ => Nat.zero_le limit) ?_
  intro read r c r' run step before
  exact step.count_le before

theorem balance_of_run (run : start.run settings read = .ok r) :
    r.frames.count + (Region.plain.outside read).count ')' =
      (Region.plain.outside read).count '(' := by
  refine run_induction run rfl ?_
  intro read r c r' run step before
  have here := step.balance
  rw [outside_concat_of_run run, List.count_append, List.count_append]
  omega

/-! ## The place of the word -/

theorem length_le_col {word before rest : List Char} {cur : Cursor} (line : '\n' ∉ word)
    (handed : cur.rest = before ++ word ++ rest) :
    word.length ≤ (cur.advance ((before ++ word).length + 1)).pos.col := by
  rw [Cursor.pos_advance_succ, handed, List.take_left, Pos.afterAll_append,
    Pos.afterAll_of_not_mem line]
  exact Nat.le_add_left _ _

end Reader

namespace Machine

/-- Wherever characters that are taken without a fault have brought a machine, it is consistent
    with them. -/
theorem run_consistent {settings : Settings} {read : List Char} {m : Machine}
    (run : start.run settings read = .ok m) : Consistent settings read m := by
  obtain ⟨r, taken, rfl⟩ := run_start_eq_ok_iff.mp run
  have region : r.machine.mode = Region.atEnd read :=
    r.mode_machine.trans (Reader.region_of_run taken).symm
  have word : pendingWord read = r.machine.word.reverse :=
    (Reader.pendingWord_eq_letters taken).trans r.word_machine.symm
  have suffix : r.machine.word.reverse <:+ read := word ▸ pendingWord_suffix read
  have letters : ∀ c ∈ r.machine.word, Word.isDelimiter c = false := by
    simpa [← r.word_machine] using Reader.isDelimiter_letters taken
  have line : '\n' ∉ r.machine.word := Reader.newline_not_mem_of_plain letters
  constructor
  case mode => exact region
  case word => exact Reader.mode_of_word
  case letters => exact letters
  case literal => exact Reader.mode_of_literal
  case body =>
    intro literal
    obtain ⟨before, seen, rfl, plain, pending⟩ := Reader.pending_of_run taken
    obtain ⟨source, rfl, content⟩ := pending.source_of_literal literal
    exact ⟨before, source, rfl, plain, content⟩
  case escape =>
    intro escape
    obtain ⟨before, seen, rfl, plain, pending⟩ := Reader.pending_of_run taken
    obtain ⟨source, rfl, content⟩ := pending.source_of_escape escape
    exact ⟨before, source, by simp, plain, content⟩
  case depth => simpa using Reader.count_le_of_run taken
  case balance => simpa using Reader.balance_of_run taken
  case names => simpa using Reader.allReadable_of_run taken
  case last => exact ⟨suffix, word⟩
  case line => exact line
  case column =>
    intro cur c rest handed stop
    obtain ⟨before, rfl⟩ := suffix
    have room : r.machine.word.length ≤ stop.pos.col := by
      rw [← List.length_reverse]
      exact Reader.length_le_col (by simpa using line) handed
    refine ⟨room, ?_⟩
    intro nonempty radix text
    have some : 0 < r.machine.word.length := List.length_pos_iff.mpr nonempty
    exact Nat.sub_add_cancel (Nat.le_trans some room)

theorem run_consistent_word :
    ∃ m, start.run .strict "(a \"\\\"(\" ; (\n(b 0x1".toList = .ok m ∧
      m.word = ['1', 'x', '0'] ∧ m.literal = [] ∧ m.frames.count = 2 ∧
      Consistent .strict "(a \"\\\"(\" ; (\n(b 0x1".toList m := by
  have run : start.run .strict "(a \"\\\"(\" ; (\n(b 0x1".toList = .ok ⟨.plain,
      (Frames.empty.push []).push [.string "\"(", .symbol "a"], [.symbol "b"],
      ['1', 'x', '0'], []⟩ := by rfl
  exact ⟨_, run, rfl, rfl, rfl, run_consistent run⟩

end Machine

end Sexpr
