import Sexpr.Parse
import Sexpr.Proofs.Steps

/-! # The token in the buffers

Wherever a machine has come from its start, one of its buffers has the token in progress,
and the other one is empty. So a reader is all that the machine holds, and every text takes
both of them to the same place or to the same fault.
-/

namespace Sexpr

/-- The machine that is where the reader is. -/
def Reader.machine (r : Reader) : Machine :=
  match r.token with
  | .word letters => ⟨.plain, r.frames, r.items, letters, []⟩
  | .comment => ⟨.comment, r.frames, r.items, [], []⟩
  | .literal body => ⟨.literal, r.frames, r.items, [], body⟩
  | .escape body => ⟨.escape, r.frames, r.items, [], body⟩

namespace Machine

variable {settings : Settings} {frames : Frames} {items : List Tree} {letters body : List Char}
  {c : Char}

theorem endWord_eq (mode : Region) (letters body : List Char) :
    endWord ⟨mode, frames, items, letters, body⟩ =
      (Reader.endWord letters items).map fun items => ⟨mode, frames, items, [], body⟩ := by
  cases letters with
  | nil => rfl
  | cons c letters =>
      simp only [endWord, Reader.endWord, List.isEmpty_cons, Bool.false_eq_true, if_false]
      cases Word.ofChars (c :: letters).reverse <;> rfl

theorem feed_letter (plain : Word.isDelimiter c = false) :
    feed settings ⟨.plain, frames, items, letters, body⟩ c =
      .ok ⟨.plain, frames, items, c :: letters, body⟩ := by
  unfold Word.isDelimiter at plain
  split at plain <;> simp_all [feed, feedPlain]

/-- The end of the word empties its buffer, and then the delimiter acts with nothing pending. -/
theorem feed_delimiter (delimiter : Word.isDelimiter c = true) :
    feed settings ⟨.plain, frames, items, letters, body⟩ c =
      (Reader.endWord letters items).bind fun items =>
        feed settings ⟨.plain, frames, items, [], body⟩ c := by
  rcases Reader.isDelimiter_iff.mp delimiter with (rfl | rfl | rfl) | rfl | rfl | rfl | rfl
  all_goals
    simp only [feed, feedPlain, closeList, endWord_eq]
    cases Reader.endWord letters items <;> rfl

theorem feed_open (settings : Settings) :
    feed settings ⟨.plain, frames, items, [], body⟩ '(' =
      (checkDepth settings frames).map fun _ => ⟨.plain, frames.push items, [], [], body⟩ := by
  show openList settings ⟨.plain, frames, items, [], body⟩ = _
  simp only [openList]
  cases checkDepth settings frames <;> rfl

theorem feed_escape (settings : Settings) (c : Char) :
    feed settings ⟨.escape, frames, items, letters, body⟩ c =
      (escape settings body c).map fun body => ⟨.literal, frames, items, letters, body⟩ := by
  simp only [feed]
  cases escape settings body c <;> rfl

end Machine

namespace Reader

variable {settings : Settings} {r r' : Reader} {c : Char} {fault : Fault}

theorem Step.feed_machine (step : Step settings r c r') :
    r.machine.feed settings c = .ok r'.machine := by
  cases step with
  | letter plain => exact Machine.feed_letter plain
  | blank blank ended =>
      refine (Machine.feed_delimiter (isDelimiter_of_isBlank blank)).trans ?_
      rw [endWord_of_wordEnd ended]
      rcases blank with rfl | rfl | rfl <;> rfl
  | semicolon ended | quote ended | closed ended =>
      refine Eq.trans (Machine.feed_delimiter rfl) ?_
      rw [endWord_of_wordEnd ended]
      rfl
  | opened ended room =>
      refine Eq.trans (Machine.feed_delimiter rfl) ?_
      rw [endWord_of_wordEnd ended, Except.bind, Machine.feed_open, checkDepth_of_room room]
      rfl
  | commented line => simp only [Machine.feed, machine, line, if_false]
  | commentEnd | backslash | literalEnd => rfl
  | plain quote backslash => simp only [Machine.feed, Machine.feedLiteral, machine]
  | escaped meaning =>
      refine (Machine.feed_escape settings _).trans ?_
      rw [escape_of_meaning settings meaning]
      rfl
  | kept lenient meaning =>
      refine (Machine.feed_escape settings _).trans ?_
      rw [escape_of_lenient lenient meaning]
      rfl

theorem Refusal.feed_machine (refusal : Refusal settings r c fault) :
    r.machine.feed settings c = .error fault := by
  cases refusal with
  | malformed delimiter nonempty value =>
      refine (Machine.feed_delimiter delimiter).trans ?_
      rw [endWord_of_malformed nonempty value, Except.bind]
  | tooDeep ended limited full =>
      refine Eq.trans (Machine.feed_delimiter rfl) ?_
      rw [endWord_of_wordEnd ended, Except.bind, Machine.feed_open, checkDepth_of_full limited full]
      rfl
  | unopened ended =>
      refine Eq.trans (Machine.feed_delimiter rfl) ?_
      rw [endWord_of_wordEnd ended]
      rfl
  | escape strict meaning =>
      refine (Machine.feed_escape settings _).trans ?_
      rw [escape_of_strict strict meaning]
      rfl

theorem feed_machine (settings : Settings) (r : Reader) (c : Char) :
    r.machine.feed settings c = (r.feed settings c).map machine := by
  rcases step_or_refusal settings r c with ⟨r', step⟩ | ⟨fault, refusal⟩
  · rw [step.feed_machine, feed_of_step step, Except.map]
  · rw [refusal.feed_machine, feed_of_refusal refusal, Except.map]

theorem run_machine (settings : Settings) (r : Reader) (text : List Char) :
    r.machine.run settings text = (r.run settings text).map machine := by
  induction text generalizing r with
  | nil => rfl
  | cons c text ih =>
      simp only [Machine.run, run, feed_machine]
      cases r.feed settings c with
      | ok r' => exact ih r'
      | error fault => rfl

theorem run_machine_of_ok {text : List Char} (run : r.run settings text = .ok r') :
    r.machine.run settings text = .ok r'.machine := by
  rw [run_machine, run, Except.map]

theorem finish_machine (r : Reader) : r.machine.finish = r.finish := by
  obtain ⟨token, frames, items⟩ := r
  cases token with
  | word letters => cases letters <;> simp [Machine.finish, finish, machine]
  | comment => simp [Machine.finish, finish, machine]
  | literal body | escape body => rfl

end Reader

/-- Every machine that a text leads to is where a reader is that the same text leads to. -/
theorem Machine.run_start_eq_ok_iff {settings : Settings} {text : List Char} {m : Machine} :
    start.run settings text = .ok m ↔
      ∃ r, Reader.start.run settings text = .ok r ∧ r.machine = m := by
  rw [show start = Reader.start.machine from rfl, Reader.run_machine]
  cases Reader.start.run settings text <;> simp [Except.map]

theorem Cursor.parse_eq_reader (settings : Settings) (cur : Cursor) :
    cur.parse settings =
      match Reader.start.run settings cur.rest with
      | .error (fault, rest) =>
          let stop := cur.advance (cur.rest.length - rest.length)
          (.error (stop.locate fault), stop)
      | .ok r =>
          let stop := cur.advance (cur.rest.length + 1)
          (r.finish.mapError stop.locate, stop) := by
  rw [parse, show Machine.start = Reader.start.machine from rfl, Reader.run_machine]
  cases Reader.start.run settings cur.rest with
  | ok r => simp only [Except.map, Reader.finish_machine]
  | error failed => rfl

end Sexpr
