import Sexpr.Grammar
import Sexpr.Reader

/-! # What one character can do to a reader

Everything that a reader does with a character is listed here once, as a relation:
the states it can go to, and the faults it can find. What holds along a whole run
is proved from these lists, never from the code of a step.
-/

namespace Sexpr.Reader

/-- The items of a list before and after the end of a bare word behind them. With
    no letters there is no word, and nothing is added. -/
inductive WordEnd : List Char → List Tree → List Tree → Prop where
  | noWord {items} : WordEnd [] items items
  | word {letters items atom} (nonempty : letters ≠ [])
      (value : Grammar.Bare letters.reverse atom) : WordEnd letters items (atom :: items)

theorem endWord_of_wordEnd {letters : List Char} {items items' : List Tree}
    (h : WordEnd letters items items') : endWord letters items = .ok items' := by
  cases h with
  | noWord => rfl
  | word nonempty value => cases value <;> simp_all [endWord]

theorem endWord_of_malformed {letters : List Char} {radix : Nat} (nonempty : letters ≠ [])
    (value : Word.ofChars letters.reverse = .malformed radix) (items : List Tree) :
    endWord letters items = .error (.malformedInteger radix (String.ofList letters.reverse)) := by
  simp [endWord, nonempty, value]

theorem wordEnd_or_malformed (letters : List Char) (items : List Tree) :
    (∃ items', WordEnd letters items items') ∨
      ∃ radix, letters ≠ [] ∧ Word.ofChars letters.reverse = .malformed radix := by
  by_cases nonempty : letters = []
  · subst nonempty
    exact .inl ⟨items, .noWord⟩
  · cases value : Word.ofChars letters.reverse with
    | integer n => exact .inl ⟨_, .word nonempty (.integer value)⟩
    | symbol => exact .inl ⟨_, .word nonempty (.symbol value)⟩
    | malformed radix => exact .inr ⟨radix, nonempty, rfl⟩

theorem checkDepth_of_room {settings : Settings} {frames : Frames}
    (room : ∀ limit, settings.maxDepth = some limit → frames.count < limit) :
    Machine.checkDepth settings frames = .ok () := by
  cases limited : settings.maxDepth with
  | none => simp only [Machine.checkDepth, limited]
  | some limit => simp only [Machine.checkDepth, limited, room limit limited, if_true]

theorem checkDepth_of_full {settings : Settings} {frames : Frames} {limit : Nat}
    (limited : settings.maxDepth = some limit) (full : limit ≤ frames.count) :
    Machine.checkDepth settings frames = .error (.nestingTooDeep limit) := by
  simp only [Machine.checkDepth, limited, Nat.not_lt_of_le full, if_false]

theorem escaped?_eq_some_iff {c meant : Char} :
    Literal.escaped? c = some meant ↔ Grammar.Escape c meant := by
  constructor
  · intro h
    unfold Literal.escaped? at h
    split at h <;> cases h <;> constructor
  · intro h
    cases h <;> rfl

theorem escaped?_eq_none_iff {c : Char} :
    Literal.escaped? c = none ↔ ∀ meant, ¬Grammar.Escape c meant := by
  simp only [Option.eq_none_iff_forall_ne_some, ne_eq, escaped?_eq_some_iff]

theorem escape_of_meaning {c meant : Char} (settings : Settings) (meaning : Grammar.Escape c meant)
    (body : List Char) : Machine.escape settings body c = .ok (meant :: body) := by
  simp only [Machine.escape, escaped?_eq_some_iff.mpr meaning]

theorem escape_of_lenient {settings : Settings} {c : Char}
    (lenient : settings.strictEscapes = false) (meaning : ∀ meant, ¬Grammar.Escape c meant)
    (body : List Char) : Machine.escape settings body c = .ok (c :: '\\' :: body) := by
  simp [Machine.escape, escaped?_eq_none_iff.mpr meaning, lenient]

theorem escape_of_strict {settings : Settings} {c : Char}
    (strict : settings.strictEscapes = true) (meaning : ∀ meant, ¬Grammar.Escape c meant)
    (body : List Char) : Machine.escape settings body c = .error (.invalidEscapedChar c) := by
  simp [Machine.escape, escaped?_eq_none_iff.mpr meaning, strict]

/-- Every way in which a reader takes a character. -/
inductive Step (settings : Settings) : Reader → Char → Reader → Prop where
  | letter {letters frames items c} (plain : Word.isDelimiter c = false) :
      Step settings ⟨.word letters, frames, items⟩ c ⟨.word (c :: letters), frames, items⟩
  | blank {letters frames items items' c} (blank : Grammar.IsBlank c)
      (ended : WordEnd letters items items') :
      Step settings ⟨.word letters, frames, items⟩ c ⟨.word [], frames, items'⟩
  | semicolon {letters frames items items'} (ended : WordEnd letters items items') :
      Step settings ⟨.word letters, frames, items⟩ ';' ⟨.comment, frames, items'⟩
  | quote {letters frames items items'} (ended : WordEnd letters items items') :
      Step settings ⟨.word letters, frames, items⟩ '"' ⟨.literal [], frames, items'⟩
  | opened {letters frames items items'} (ended : WordEnd letters items items')
      (room : ∀ limit, settings.maxDepth = some limit → frames.count < limit) :
      Step settings ⟨.word letters, frames, items⟩ '(' ⟨.word [], frames.push items', []⟩
  | closed {letters frames outer items items'} (ended : WordEnd letters items items') :
      Step settings ⟨.word letters, Frames.push frames outer, items⟩ ')'
        ⟨.word [], frames, .list items'.reverse :: outer⟩
  | commented {frames items c} (line : c ≠ '\n') :
      Step settings ⟨.comment, frames, items⟩ c ⟨.comment, frames, items⟩
  | commentEnd {frames items} :
      Step settings ⟨.comment, frames, items⟩ '\n' ⟨.word [], frames, items⟩
  | plain {body frames items c} (quote : c ≠ '"') (backslash : c ≠ '\\') :
      Step settings ⟨.literal body, frames, items⟩ c ⟨.literal (c :: body), frames, items⟩
  | backslash {body frames items} :
      Step settings ⟨.literal body, frames, items⟩ '\\' ⟨.escape body, frames, items⟩
  | literalEnd {body frames items} :
      Step settings ⟨.literal body, frames, items⟩ '"'
        ⟨.word [], frames, .string (String.ofList body.reverse) :: items⟩
  | escaped {body frames items c meant} (meaning : Grammar.Escape c meant) :
      Step settings ⟨.escape body, frames, items⟩ c ⟨.literal (meant :: body), frames, items⟩
  | kept {body frames items c} (lenient : settings.strictEscapes = false)
      (meaning : ∀ meant, ¬Grammar.Escape c meant) :
      Step settings ⟨.escape body, frames, items⟩ c ⟨.literal (c :: '\\' :: body), frames, items⟩

inductive Refusal (settings : Settings) : Reader → Char → Fault → Prop where
  | malformed {letters frames items c radix} (delimiter : Word.isDelimiter c = true)
      (nonempty : letters ≠ []) (value : Word.ofChars letters.reverse = .malformed radix) :
      Refusal settings ⟨.word letters, frames, items⟩ c
        (.malformedInteger radix (String.ofList letters.reverse))
  | tooDeep {letters frames items items' limit} (ended : WordEnd letters items items')
      (limited : settings.maxDepth = some limit) (full : limit ≤ frames.count) :
      Refusal settings ⟨.word letters, frames, items⟩ '(' (.nestingTooDeep limit)
  | unopened {letters items items'} (ended : WordEnd letters items items') :
      Refusal settings ⟨.word letters, .empty, items⟩ ')' .unexpectedClosingParen
  | escape {body frames items c} (strict : settings.strictEscapes = true)
      (meaning : ∀ meant, ¬Grammar.Escape c meant) :
      Refusal settings ⟨.escape body, frames, items⟩ c (.invalidEscapedChar c)

theorem isDelimiter_iff {c : Char} :
    Word.isDelimiter c = true ↔
      Grammar.IsBlank c ∨ c = '(' ∨ c = ')' ∨ c = ';' ∨ c = '"' := by
  constructor
  · intro h
    unfold Word.isDelimiter at h
    split at h <;> simp_all [Grammar.IsBlank]
  · rintro ((rfl | rfl | rfl) | rfl | rfl | rfl | rfl) <;> rfl

theorem isDelimiter_of_isBlank {c : Char} (h : Grammar.IsBlank c) : Word.isDelimiter c = true :=
  isDelimiter_iff.mpr (.inl h)

theorem ne_of_isDelimiter {c d : Char} (plain : Word.isDelimiter c = false)
    (delimiter : Word.isDelimiter d = true) : c ≠ d := by
  rintro rfl
  rw [plain] at delimiter
  cases delimiter

theorem not_mem_of_isDelimiter {word : List Char} {d : Char}
    (plain : ∀ c ∈ word, Word.isDelimiter c = false) (delimiter : Word.isDelimiter d = true) :
    d ∉ word :=
  fun member => ne_of_isDelimiter (plain d member) delimiter rfl

/-- A delimiter first ends the word before it, and then acts between items. -/
theorem feed_delimiter {settings : Settings} {c : Char} (h : Word.isDelimiter c = true)
    (letters : List Char) (frames : Frames) (items : List Tree) :
    feed settings ⟨.word letters, frames, items⟩ c =
      (endWord letters items).bind (delimit settings frames · c) := by
  simp only [feed, h, if_true]
  rfl

theorem delimit_blank (settings : Settings) (frames : Frames) (items : List Tree) {c : Char}
    (h : Grammar.IsBlank c) : delimit settings frames items c = .ok ⟨.word [], frames, items⟩ := by
  rcases h with rfl | rfl | rfl <;> rfl

theorem delimit_open (settings : Settings) (frames : Frames) (items : List Tree) :
    delimit settings frames items '(' =
      (Machine.checkDepth settings frames).map fun _ => ⟨.word [], frames.push items, []⟩ := by
  simp only [delimit]
  cases Machine.checkDepth settings frames <;> rfl

theorem feed_escape (settings : Settings) (body : List Char) (frames : Frames)
    (items : List Tree) (c : Char) :
    feed settings ⟨.escape body, frames, items⟩ c =
      (Machine.escape settings body c).map fun body => ⟨.literal body, frames, items⟩ := by
  simp only [feed]
  cases Machine.escape settings body c <;> rfl

theorem feed_of_step {settings : Settings} {r r' : Reader} {c : Char}
    (h : Step settings r c r') : r.feed settings c = .ok r' := by
  cases h with
  | letter plain => simp only [feed, plain, Bool.false_eq_true, if_false]
  | blank blank ended =>
      rw [feed_delimiter (isDelimiter_of_isBlank blank), endWord_of_wordEnd ended]
      exact delimit_blank _ _ _ blank
  | semicolon ended | quote ended =>
      rw [feed_delimiter rfl, endWord_of_wordEnd ended]
      rfl
  | opened ended room =>
      rw [feed_delimiter rfl, endWord_of_wordEnd ended]
      simp only [Except.bind, delimit_open, checkDepth_of_room room, Except.map]
  | closed ended =>
      rw [feed_delimiter rfl, endWord_of_wordEnd ended]
      simp only [Except.bind, delimit, Frames.pop?_push]
  | commented line => simp only [feed, line, if_false]
  | commentEnd => rfl
  | plain quote backslash => simp only [feed]
  | backslash | literalEnd => rfl
  | escaped meaning =>
      rw [feed_escape, escape_of_meaning settings meaning, Except.map]
  | kept lenient meaning =>
      rw [feed_escape, escape_of_lenient lenient meaning, Except.map]

theorem feed_of_refusal {settings : Settings} {r : Reader} {c : Char} {fault : Fault}
    (h : Refusal settings r c fault) : r.feed settings c = .error fault := by
  cases h with
  | malformed delimiter nonempty value =>
      rw [feed_delimiter delimiter, endWord_of_malformed nonempty value, Except.bind]
  | tooDeep ended limited full =>
      rw [feed_delimiter rfl, endWord_of_wordEnd ended]
      simp only [Except.bind, delimit_open, checkDepth_of_full limited full, Except.map]
  | unopened ended =>
      rw [feed_delimiter rfl, endWord_of_wordEnd ended]
      rfl
  | escape strict meaning =>
      rw [feed_escape, escape_of_strict strict meaning, Except.map]

/-- A reader takes a character, or finds a fault at it. -/
theorem step_or_refusal (settings : Settings) (r : Reader) (c : Char) :
    (∃ r', Step settings r c r') ∨ ∃ fault, Refusal settings r c fault := by
  obtain ⟨token, frames, items⟩ := r
  cases token with
  | comment =>
      by_cases line : c = '\n'
      · subst line
        exact .inl ⟨_, .commentEnd⟩
      · exact .inl ⟨_, .commented line⟩
  | literal body =>
      by_cases quote : c = '"'
      · subst quote
        exact .inl ⟨_, .literalEnd⟩
      by_cases backslash : c = '\\'
      · subst backslash
        exact .inl ⟨_, .backslash⟩
      · exact .inl ⟨_, .plain quote backslash⟩
  | escape body =>
      cases found : Literal.escaped? c with
      | some meant => exact .inl ⟨_, .escaped (escaped?_eq_some_iff.mp found)⟩
      | none =>
          have meaning := escaped?_eq_none_iff.mp found
          cases strict : settings.strictEscapes with
          | false => exact .inl ⟨_, .kept strict meaning⟩
          | true => exact .inr ⟨_, .escape strict meaning⟩
  | word letters =>
      cases delimiter : Word.isDelimiter c with
      | false => exact .inl ⟨_, .letter delimiter⟩
      | true =>
          rcases wordEnd_or_malformed letters items with ⟨items', ended⟩ | ⟨radix, nonempty, value⟩
          · rcases isDelimiter_iff.mp delimiter with blank | rfl | rfl | rfl | rfl
            · exact .inl ⟨_, .blank blank ended⟩
            · by_cases full : ∃ limit, settings.maxDepth = some limit ∧ limit ≤ frames.count
              · obtain ⟨limit, limited, full⟩ := full
                exact .inr ⟨_, .tooDeep ended limited full⟩
              · refine .inl ⟨_, .opened ended ?_⟩
                intro limit limited
                apply Nat.lt_of_not_le
                intro reached
                exact full ⟨limit, limited, reached⟩
            · cases waiting : frames.pop? with
              | none =>
                  obtain rfl := Frames.pop?_eq_none_iff.mp waiting
                  exact .inr ⟨_, .unopened ended⟩
              | some popped =>
                  obtain rfl := Frames.pop?_eq_some_iff.mp waiting
                  exact .inl ⟨_, .closed ended⟩
            · exact .inl ⟨_, .semicolon ended⟩
            · exact .inl ⟨_, .quote ended⟩
          · exact .inr ⟨_, .malformed delimiter nonempty value⟩

theorem feed_eq_ok_iff {settings : Settings} {r r' : Reader} {c : Char} :
    r.feed settings c = .ok r' ↔ Step settings r c r' := by
  constructor
  · intro h
    rcases step_or_refusal settings r c with ⟨next, step⟩ | ⟨fault, refusal⟩
    · rw [feed_of_step step, Except.ok.injEq] at h
      exact h ▸ step
    · rw [feed_of_refusal refusal] at h
      cases h
  · exact feed_of_step

theorem feed_eq_error_iff {settings : Settings} {r : Reader} {c : Char} {fault : Fault} :
    r.feed settings c = .error fault ↔ Refusal settings r c fault := by
  constructor
  · intro h
    rcases step_or_refusal settings r c with ⟨next, step⟩ | ⟨found, refusal⟩
    · rw [feed_of_step step] at h
      cases h
    · rw [feed_of_refusal refusal, Except.error.injEq] at h
      exact h ▸ refusal
  · exact feed_of_refusal

/-! ## Whole runs -/

theorem run_of_step {settings : Settings} {r r' : Reader} {c : Char} (h : Step settings r c r')
    (text : List Char) : r.run settings (c :: text) = r'.run settings text := by
  simp only [run, feed_eq_ok_iff.mpr h]

theorem run_cons_eq_ok_iff {settings : Settings} {r r' : Reader} {c : Char} {text : List Char} :
    r.run settings (c :: text) = .ok r' ↔
      ∃ next, Step settings r c next ∧ next.run settings text = .ok r' := by
  simp only [run]
  cases fed : r.feed settings c with
  | ok next => simp only [← feed_eq_ok_iff, fed, Except.ok.injEq, exists_eq_left']
  | error fault => simp only [← feed_eq_ok_iff, fed, reduceCtorEq, false_and, exists_false]

theorem run_append_eq_ok_iff {settings : Settings} {r r' : Reader} {cs ds : List Char} :
    r.run settings (cs ++ ds) = .ok r' ↔
      ∃ next, r.run settings cs = .ok next ∧ next.run settings ds = .ok r' := by
  rw [run_append]
  cases r.run settings cs with
  | ok next => simp
  | error failed => simp

theorem run_concat_eq_ok_iff {settings : Settings} {r r' : Reader} {text : List Char} {c : Char} :
    r.run settings (text ++ [c]) = .ok r' ↔
      ∃ next, r.run settings text = .ok next ∧ Step settings next c r' := by
  simp only [run_append_eq_ok_iff, run_cons_eq_ok_iff]
  simp only [run, Except.ok.injEq, exists_eq_right]

/-- What every step keeps, a run keeps. The property may speak of the characters
    that have been read. -/
theorem run_keeps {settings : Settings} (holds : List Char → Reader → Prop)
    (step : ∀ {read r c r'}, Step settings r c r' → holds read r → holds (read ++ [c]) r')
    {r r' : Reader} {text : List Char} (run : r.run settings text = .ok r')
    (read : List Char) (before : holds read r) : holds (read ++ text) r' := by
  induction text generalizing r read with
  | nil =>
      cases run
      simpa using before
  | cons c text ih =>
      obtain ⟨next, taken, run⟩ := run_cons_eq_ok_iff.mp run
      simpa using ih run _ (step taken before)

/-- What holds at the start, and behind every step from where a run has come to, holds behind
    every run. -/
@[elab_as_elim]
theorem run_induction {settings : Settings} {holds : List Char → Reader → Prop}
    {text : List Char} {r : Reader} (run : start.run settings text = .ok r)
    (nil : holds [] start)
    (concat : ∀ {read r c r'}, start.run settings read = .ok r → Step settings r c r' →
      holds read r → holds (read ++ [c]) r') : holds text r := by
  have kept := run_keeps (fun read r => start.run settings read = .ok r ∧ holds read r) ?_ run []
    ⟨rfl, nil⟩
  · exact kept.2
  · rintro read r c r' step ⟨run, before⟩
    exact ⟨run_concat_eq_ok_iff.mpr ⟨r, run, step⟩, concat run step before⟩

/-- Readers that can follow each other's steps can follow each other's runs. -/
theorem run_follows {settings settings' : Settings} (related : Reader → Reader → Prop)
    (step : ∀ {r s c r'}, related r s → Step settings r c r' →
      ∃ s', Step settings' s c s' ∧ related r' s')
    {r r' s : Reader} {text : List Char} (run : r.run settings text = .ok r')
    (before : related r s) : ∃ s', s.run settings' text = .ok s' ∧ related r' s' := by
  induction text generalizing r s with
  | nil =>
      cases run
      exact ⟨s, rfl, before⟩
  | cons c text ih =>
      obtain ⟨next, taken, run⟩ := run_cons_eq_ok_iff.mp run
      obtain ⟨next', taken', after⟩ := step before taken
      obtain ⟨s', run', behind⟩ := ih run after
      exact ⟨s', run_cons_eq_ok_iff.mpr ⟨next', taken', run'⟩, behind⟩

theorem run_eq_error_iff {settings : Settings} {r : Reader} {text rest : List Char}
    {fault : Fault} :
    r.run settings text = .error (fault, rest) ↔
      ∃ read c r', text = read ++ c :: rest ∧ r.run settings read = .ok r' ∧
        Refusal settings r' c fault := by
  constructor
  · intro h
    induction text generalizing r with
    | nil => simp only [run, reduceCtorEq] at h
    | cons c text ih =>
        simp only [run] at h
        cases fed : r.feed settings c with
        | error found =>
            simp only [fed, Except.error.injEq, Prod.mk.injEq] at h
            obtain ⟨rfl, rfl⟩ := h
            exact ⟨[], c, r, rfl, rfl, feed_eq_error_iff.mp fed⟩
        | ok next =>
            simp only [fed] at h
            obtain ⟨read, d, r', rfl, taken, refusal⟩ := ih h
            exact ⟨c :: read, d, r', rfl, by simp only [run, fed, taken], refusal⟩
  · rintro ⟨read, c, r', rfl, taken, refusal⟩
    simp only [run_append, taken, run, feed_eq_error_iff.mpr refusal]

theorem finish_eq_ok_iff {r : Reader} {v : Tree} :
    r.finish = .ok v ↔
      (r.token = .word [] ∨ r.token = .comment) ∧ r.frames = .empty ∧
        v = .list r.items.reverse := by
  obtain ⟨token, frames, items⟩ := r
  have none_open : frames.lists.isEmpty = true ↔ frames = .empty := by
    rw [List.isEmpty_iff]
    exact ⟨fun h => Frames.ext h, fun h => h ▸ rfl⟩
  cases token with
  | literal body => simp [finish]
  | escape body => simp [finish]
  | comment => by_cases h : frames.lists.isEmpty <;> simp [finish, h, ← none_open, eq_comm]
  | word letters =>
      cases letters with
      | nil => by_cases h : frames.lists.isEmpty <;> simp [finish, h, ← none_open, eq_comm]
      | cons c cs => simp [finish]

end Sexpr.Reader
