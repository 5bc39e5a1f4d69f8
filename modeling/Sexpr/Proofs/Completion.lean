import Sexpr.Proofs.Acceptance
import Sexpr.Proofs.Regions

/-! # Texts that are not finished

A text that ends too early can be completed: its last token is ended, and its open
lists are closed, for which no limit leaves too little room. Only a bare word that is
no numeral stands in the way. A text with any other fault cannot, as the reader never
gets past that fault.
-/

namespace Sexpr

namespace Reader

variable {settings : Settings}

theorem run_closing (settings : Settings) (frames : Frames) (items : List Tree) :
    ∃ items', run settings ⟨.word [], frames, items⟩ (List.replicate frames.lists.length ')') =
      .ok ⟨.word [], .empty, items'⟩ := by
  generalize opened : frames.lists = lists
  induction lists generalizing frames items with
  | nil =>
      obtain rfl : frames = .empty := Frames.ext opened
      exact ⟨items, rfl⟩
  | cons outer lists ih =>
      obtain ⟨around, rfl, waiting⟩ := Frames.exists_push_of_lists_eq opened
      obtain ⟨items', closed⟩ := ih around (.list items.reverse :: outer) waiting
      refine ⟨items', ?_⟩
      rw [List.length_cons, List.replicate_succ, run_of_step (.closed .noWord)]
      exact closed

/-- Every token can be ended but a word that is no numeral. -/
theorem exists_tokenEnd (settings : Settings) (r : Reader)
    (word : ∀ letters, r.token = .word letters → ∃ items, WordEnd letters r.items items) :
    ∃ text items, r.run settings text = .ok ⟨.word [], r.frames, items⟩ := by
  obtain ⟨token, frames, items⟩ := r
  cases token with
  | word letters =>
      obtain ⟨items', ended⟩ := word letters rfl
      exact ⟨['\n'], items', run_of_step (.blank (.inr (.inr rfl)) ended) []⟩
  | comment => exact ⟨['\n'], items, run_of_step .commentEnd []⟩
  | literal body => exact ⟨['"'], _, run_of_step .literalEnd []⟩
  | escape body =>
      -- The first quote is taken for an escape, and only the second one ends the literal.
      exact ⟨['"', '"'], _,
        (run_of_step (.escaped .quote) ['"']).trans (run_of_step .literalEnd [])⟩

theorem exists_completion {text : List Char} {r : Reader} (run : start.run settings text = .ok r)
    (word : ∀ letters, r.token = .word letters → ∃ items, WordEnd letters r.items items) :
    ∃ more v, Reads settings (text ++ more) v := by
  obtain ⟨ending, items, ended⟩ := exists_tokenEnd settings r word
  obtain ⟨items', closed⟩ := run_closing settings r.frames items
  refine ⟨ending ++ List.replicate r.frames.lists.length ')', .list items'.reverse,
    ⟨.word [], .empty, items'⟩, ?_, rfl⟩
  simp only [run_append, run, ended, closed]

theorem exists_wordEnd {letters : List Char}
    (value : letters = [] ∨ (∃ n, Word.ofChars letters.reverse = .integer n) ∨
      Word.ofChars letters.reverse = .symbol) (items : List Tree) :
    ∃ items', WordEnd letters items items' := by
  rcases wordEnd_or_malformed letters items with ended | ⟨radix, nonempty, malformed⟩
  · exact ended
  · rcases value with none | ⟨n, integer⟩ | symbol
    · exact absurd none nonempty
    · cases malformed.symm.trans integer
    · cases malformed.symm.trans symbol

theorem token_of_unterminatedString {r : Reader} (h : r.finish = .error .unterminatedString)
    (letters : List Char) : r.token ≠ .word letters := by
  intro word
  rw [finish_eq_unterminatedString_iff, word] at h
  rcases h with literal | escape
  · cases literal
  · cases escape

end Reader

namespace Cursor

theorem parse_append_of_error {settings : Settings} {text : String} {fileName : Option String}
    {e : SyntaxError} (failed : ((ofText text fileName).parse settings).1 = .error e)
    (inside : e.fault.atEnd = false) (more : String) (wholeName : Option String) :
    ((ofText (text ++ more) wholeName).parse settings).1 =
      .error ((ofText (text ++ more) wholeName).errorAtPos e.fault e.pos e.markSize) := by
  cases failure_of_error failed with
  | ended run early =>
      rw [fault_errorAtPos, Reader.atEnd_of_finish early] at inside
      cases inside
  | @refused read c rest r fault split run refusal =>
      have further : (ofText (text ++ more) wholeName).rest = read ++ c :: (rest ++ more.toList) := by
        rw [rest_ofText] at split
        simp [split]
      have outcome : Outcome settings (ofText (text ++ more) wholeName) _ _ :=
        .refused further run refusal
      rw [outcome.parse_eq]
      rfl

end Cursor

/-- A text that ends inside a string literal can be completed. So can one that ends too
    early otherwise, if the bare word that it ends with, if any, is an integer or a
    symbol. With any other fault a text fails in the same way however it goes on. -/
theorem parseWith_error_extended {settings : Settings} {text : String} {name : Option String}
    {e : SyntaxError} (failed : parseWith settings (.text text) name = .error (.syntactic e))
    (wholeName : Option String) :
    (e.fault = .unterminatedString ∨
        e.fault = .unexpectedEnd ∧
          (pendingWord text.toList = [] ∨
            (∃ n, Word.ofChars (pendingWord text.toList) = .integer n) ∨
            Word.ofChars (pendingWord text.toList) = .symbol) →
      ∃ more v, parseWith settings (.text (text ++ more)) wholeName = .ok v) ∧
    (e.fault ≠ .unterminatedString → e.fault ≠ .unexpectedEnd →
      ∀ more, ∃ e', parseWith settings (.text (text ++ more)) wholeName = .error (.syntactic e') ∧
        e'.fault = e.fault ∧ e'.pos = e.pos ∧ e'.markSize = e.markSize) := by
  rw [parseWith_text_eq_error_iff] at failed
  constructor
  · intro unfinished
    have early : e.fault.atEnd = true := by
      rcases unfinished with fault | ⟨fault, -⟩ <;> rw [fault] <;> rfl
    obtain ⟨r, run, ending⟩ := Cursor.finish_of_error failed early
    rw [Cursor.rest_ofText] at run
    have word : ∀ letters, r.token = .word letters →
        ∃ items, Reader.WordEnd letters r.items items := by
      intro letters word
      rcases unfinished with fault | ⟨-, value⟩
      · rw [fault] at ending
        exact absurd word (Reader.token_of_unterminatedString ending letters)
      · rw [Reader.pendingWord_of_run run word] at value
        exact Reader.exists_wordEnd (value.imp_left List.reverse_eq_nil_iff.mp) r.items
    obtain ⟨more, v, reads⟩ := Reader.exists_completion run word
    refine ⟨String.ofList more, v, ?_⟩
    rw [parseWith_text_eq_ok_iff, String.toList_append, String.toList_ofList]
    exact reads
  · intro literal ending more
    have inside : e.fault.atEnd = false := by
      cases fault : e.fault with
      | unterminatedString => exact absurd fault literal
      | unexpectedEnd => exact absurd fault ending
      | _ => rfl
    exact ⟨_, parseWith_text_eq_error_iff.mpr
      (Cursor.parse_append_of_error failed inside more wholeName), rfl, rfl, rfl⟩

theorem parseWith_error_extended_numeral :
    ∃ e, parseWith .strict (.text "(a ; \"\n0xf") none = .error (.syntactic e) ∧
      e.fault = .unexpectedEnd ∧ pendingWord "(a ; \"\n0xf".toList = ['0', 'x', 'f'] ∧
      ∃ more v, parseWith .strict (.text ("(a ; \"\n0xf" ++ more)) none = .ok v := by
  obtain ⟨e, failed, fault⟩ :
      ∃ e, parseWith .strict (.text "(a ; \"\n0xf") none = .error (.syntactic e) ∧
        e.fault = .unexpectedEnd := ⟨_, rfl, rfl⟩
  have word : pendingWord "(a ; \"\n0xf".toList = ['0', 'x', 'f'] := by decide
  have integer : Word.ofChars ['0', 'x', 'f'] = .integer 15 := by decide
  refine ⟨e, failed, fault, word, (parseWith_error_extended failed none).1 (.inr ⟨fault, ?_⟩)⟩
  exact .inr (.inl ⟨15, by rw [word, integer]⟩)

end Sexpr
