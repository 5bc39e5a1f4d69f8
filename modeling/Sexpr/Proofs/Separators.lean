import Sexpr.Proofs.Acceptance
import Sexpr.Proofs.Regions

/-! # What may stand between two items

Blanks and whole comments only separate. Behind a delimiter-free beginning they all end the
word in progress, and leave the reader between items. So it makes no difference to what a
text says, or to what is wrong with it, which of them stand at a place, as long as there
are any.
-/

namespace Sexpr

open Grammar

/-- Blanks and whole comments, one after the other. -/
inductive Grammar.Gap : List Char → Prop where
  | nil : Gap []
  | blank {c gap} (blank : IsBlank c) : Gap gap → Gap (c :: gap)
  | comment {body gap} (line : '\n' ∉ body) : Gap gap → Gap (';' :: body ++ '\n' :: gap)

theorem Grammar.Gap.head {gap : List Char} (h : Gap gap) (nonempty : gap ≠ []) :
    ∃ c rest, gap = c :: rest ∧ Word.isDelimiter c = true := by
  cases h with
  | nil => exact absurd rfl nonempty
  | blank blank => exact ⟨_, _, rfl, Reader.isDelimiter_of_isBlank blank⟩
  | comment line => exact ⟨';', _, rfl, rfl⟩

namespace Reader

variable {settings : Settings} {frames : Frames} {items items' : List Tree}
  {letters gap : List Char}

/-! ## Reading over a gap -/

theorem run_gap (h : Gap gap) (rest : List Char) :
    run settings ⟨.word [], frames, items⟩ (gap ++ rest) =
      run settings ⟨.word [], frames, items⟩ rest := by
  induction h with
  | nil => rfl
  | blank blank _ ih => rw [List.cons_append, run_of_step (.blank blank .noWord), ih]
  | comment line _ ih =>
      rw [List.append_assoc, List.cons_append, run_of_step (.semicolon .noWord), run_comment line,
        List.cons_append, run_of_step .commentEnd, ih]

theorem run_gap_of_wordEnd (h : Gap gap) (nonempty : gap ≠ [])
    (ended : WordEnd letters items items') (rest : List Char) :
    run settings ⟨.word letters, frames, items⟩ (gap ++ rest) =
      run settings ⟨.word [], frames, items'⟩ rest := by
  cases h with
  | nil => exact absurd rfl nonempty
  | blank blank further => rw [List.cons_append, run_of_step (.blank blank ended), run_gap further]
  | comment line further =>
      rw [List.append_assoc, List.cons_append, run_of_step (.semicolon ended), run_comment line,
        List.cons_append, run_of_step .commentEnd, run_gap further]

/-! ## What a text says, apart from places -/

def verdict (settings : Settings) (text : List Char) : Except Fault Tree :=
  match start.run settings text with
  | .ok r => r.finish
  | .error (fault, _) => .error fault

theorem verdict_append {text : List Char} {r : Reader} (run : start.run settings text = .ok r)
    {more more' : List Char} (same : r.run settings more = r.run settings more') :
    verdict settings (text ++ more) = verdict settings (text ++ more') := by
  simp only [verdict, run_append, run, same]

theorem verdict_of_refusal {text rest : List Char} {c : Char} {r : Reader} {fault : Fault}
    (run : start.run settings text = .ok r) (refusal : Refusal settings r c fault) :
    verdict settings (text ++ c :: rest) = .error fault := by
  have failed : start.run settings (text ++ c :: rest) = .error (fault, rest) :=
    run_eq_error_iff.mpr ⟨text, c, r, rfl, run, refusal⟩
  simp only [verdict, failed]

/-- It does not matter which gap stands behind a text that leaves the reader in a word or
    between items. -/
theorem verdict_gap {text letters : List Char} {r : Reader} (run : start.run settings text = .ok r)
    (word : r.token = .word letters) {gap gap' : List Char} (h : Gap gap) (nonempty : gap ≠ [])
    (h' : Gap gap') (nonempty' : gap' ≠ []) (rest : List Char) :
    verdict settings (text ++ (gap ++ rest)) = verdict settings (text ++ (gap' ++ rest)) := by
  obtain ⟨token, frames, items⟩ := r
  dsimp only at word
  subst word
  rcases wordEnd_or_malformed letters items with ⟨items', ended⟩ | ⟨radix, some, value⟩
  · apply verdict_append run
    rw [run_gap_of_wordEnd h nonempty ended, run_gap_of_wordEnd h' nonempty' ended]
  · obtain ⟨c, left, rfl, delimiter⟩ := h.head nonempty
    obtain ⟨c', left', rfl, delimiter'⟩ := h'.head nonempty'
    rw [List.cons_append, verdict_of_refusal run (.malformed delimiter some value),
      List.cons_append, verdict_of_refusal run (.malformed delimiter' some value)]

end Reader

namespace Cursor

variable {settings : Settings} {cur cur' : Cursor}

theorem mapError_fault_parse (settings : Settings) (cur : Cursor) :
    (cur.parse settings).1.mapError SyntaxError.fault = Reader.verdict settings cur.rest := by
  obtain ⟨result, stop, parsed, outcome⟩ := parse_outcome settings cur
  rw [parsed, Reader.verdict]
  cases outcome with
  | finished run tree => simp only [run, tree, mapError_ok]
  | ended run early => simp only [run, early, mapError_error, fault_errorAtPos]
  | @refused read c rest r fault split run refusal =>
      rw [split]
      exact (Reader.verdict_of_refusal run refusal).symm

theorem parse_of_verdict_eq
    (same : Reader.verdict settings cur.rest = Reader.verdict settings cur'.rest) :
    (∃ v, (cur.parse settings).1 = .ok v ∧ (cur'.parse settings).1 = .ok v) ∨
      ∃ e e', (cur.parse settings).1 = .error e ∧ (cur'.parse settings).1 = .error e' ∧
        e'.fault = e.fault ∧ e'.markSize = e.markSize := by
  rw [← mapError_fault_parse, ← mapError_fault_parse] at same
  cases parsed : (cur.parse settings).1 with
  | ok v =>
      rw [parsed, mapError_ok, eq_comm, mapError_eq_ok_iff] at same
      exact .inl ⟨v, rfl, same⟩
  | error e =>
      rw [parsed, mapError_error, eq_comm, mapError_eq_error_iff] at same
      obtain ⟨e', failed, fault⟩ := same
      refine .inr ⟨e, e', rfl, failed, fault, ?_⟩
      rw [markSize_of_error parsed, markSize_of_error failed, fault]

/-- A word that is no numeral is refused at the gap behind it, at its own place. -/
theorem parse_gap_of_malformed {before gap behind : String} {name : Option String} {r : Reader}
    {letters : List Char} {radix : Nat} (run : Reader.start.run settings before.toList = .ok r)
    (word : r.token = .word letters) (nonempty : letters ≠ [])
    (value : Word.ofChars letters.reverse = .malformed radix) (h : Gap gap.toList)
    (nonempty' : gap.toList ≠ []) :
    ∃ e, ((ofText (before ++ gap ++ behind) name).parse settings).1 = .error e ∧
      e.fault = .malformedInteger radix (String.ofList letters.reverse) ∧
      e.pos = e.fault.place (Pos.start.afterAll before.toList) := by
  obtain ⟨token, frames, items⟩ := r
  dsimp only at word
  subst word
  obtain ⟨c, left, begins, delimiter⟩ := h.head nonempty'
  have split : (ofText (before ++ gap ++ behind) name).rest =
      before.toList ++ c :: (left ++ behind.toList) := by
    simp [begins]
  have outcome : Outcome settings (ofText (before ++ gap ++ behind) name) _ _ :=
    .refused split run (.malformed delimiter nonempty value)
  rw [outcome.parse_eq]
  exact ⟨_, rfl, rfl, rfl⟩

end Cursor

/-- Behind a text that leaves the reader in a word or between items, a blank may be replaced
    by any blanks and whole comments. The text says the same, or fails with the same fault
    and the same mark. If the word is no numeral, that is the fault, and even the place is
    the same. -/
theorem parseWith_gap {settings : Settings} {before : String} {r : Reader} {letters : List Char}
    (run : Reader.start.run settings before.toList = .ok r) (word : r.token = .word letters)
    {c : Char} (blank : IsBlank c) {gap : String} (separates : Gap gap.toList)
    (nonempty : gap ≠ "") (behind : String) (name name' : Option String) :
    let narrow := parseWith settings (.text (before ++ String.singleton c ++ behind)) name
    let wide := parseWith settings (.text (before ++ gap ++ behind)) name'
    ((∃ v, narrow = .ok v ∧ wide = .ok v) ∨
      ∃ e e', narrow = .error (.syntactic e) ∧ wide = .error (.syntactic e') ∧
        e'.fault = e.fault ∧ e'.markSize = e.markSize) ∧
    ∀ radix, Word.ofChars (pendingWord before.toList) = .malformed radix →
      ∃ e e', narrow = .error (.syntactic e) ∧ wide = .error (.syntactic e') ∧
        e.fault = .malformedInteger radix (String.ofList (pendingWord before.toList)) ∧
        e'.fault = e.fault ∧ e'.pos = e.pos := by
  intro narrow wide
  have one : Gap (String.singleton c).toList := by
    rw [String.toList_singleton]
    exact .blank blank .nil
  have some : (String.singleton c).toList ≠ [] := by simp
  have some' : gap.toList ≠ [] := by simpa using nonempty
  constructor
  · have same := Reader.verdict_gap run word one some separates some' behind.toList
    have texts :
        Reader.verdict settings
            (Cursor.ofText (before ++ String.singleton c ++ behind) name).rest =
          Reader.verdict settings (Cursor.ofText (before ++ gap ++ behind) name').rest := by
      simpa [String.toList_append, List.append_assoc] using same
    rcases Cursor.parse_of_verdict_eq texts with ⟨v, read, read'⟩ | ⟨e, e', failed, failed', alike⟩
    · exact .inl ⟨v, mapError_eq_ok_iff.mpr read, mapError_eq_ok_iff.mpr read'⟩
    · exact .inr ⟨e, e', parseWith_text_eq_error_iff.mpr failed,
        parseWith_text_eq_error_iff.mpr failed', alike⟩
  · intro radix value
    rw [Reader.pendingWord_of_run run word] at value ⊢
    have letter : letters ≠ [] := by
      rintro rfl
      cases value
    obtain ⟨e, failed, fault, pos⟩ :=
      Cursor.parse_gap_of_malformed run word letter value one some
    obtain ⟨e', failed', fault', pos'⟩ :=
      Cursor.parse_gap_of_malformed run word letter value separates some'
    refine ⟨e, e', parseWith_text_eq_error_iff.mpr failed, parseWith_text_eq_error_iff.mpr failed',
      fault, fault'.trans fault.symm, ?_⟩
    rw [pos, pos', fault, fault']

theorem parseWith_gap_malformed :
    (∃ r letters, Reader.start.run .strict "(a\n 0xg".toList = .ok r ∧ r.token = .word letters) ∧
      IsBlank '\t' ∧ Gap ";\"(\\\n \n".toList ∧
      Word.ofChars (pendingWord "(a\n 0xg".toList) = .malformed 16 ∧
      ∃ e e', parseWith .strict (.text ("(a\n 0xg" ++ String.singleton '\t' ++ ")")) none =
          .error (.syntactic e) ∧
        parseWith .strict (.text ("(a\n 0xg" ++ ";\"(\\\n \n" ++ ")")) none =
          .error (.syntactic e') ∧
        e.fault = .malformedInteger 16 (String.ofList (pendingWord "(a\n 0xg".toList)) ∧
        e'.fault = e.fault ∧ e'.pos = e.pos := by
  obtain ⟨r, run, word⟩ : ∃ r, Reader.start.run .strict "(a\n 0xg".toList = .ok r ∧
      r.token = .word ['g', 'x', '0'] := ⟨_, rfl, rfl⟩
  have blank : IsBlank '\t' := .inr (.inl rfl)
  have gap : Gap ";\"(\\\n \n".toList := by
    have parts : ";\"(\\\n \n".toList = ';' :: ['"', '(', '\\'] ++ '\n' :: [' ', '\n'] := by decide
    rw [parts]
    exact .comment (by decide) (.blank (.inl rfl) (.blank (.inr (.inr rfl)) .nil))
  have malformed : Word.ofChars (pendingWord "(a\n 0xg".toList) = .malformed 16 := by decide
  exact ⟨⟨r, _, run, word⟩, blank, gap, malformed,
    (parseWith_gap run word blank gap (by decide) ")" none none).2 16 malformed⟩

end Sexpr
