import Sexpr.Proofs.Nesting
import Sexpr.Proofs.Outcomes

/-! # The reader accepts exactly its grammar

A text is read when it is a forest, and the trees of the forest are what it says.
Whatever the grammar derives, a run goes through. In the other direction a reader
in the middle of a text is described by what it still demands: the open lists each
want the rest of their items and a closing parenthesis, and the token in progress
is put back in front of what is left.
-/

namespace Sexpr

open Grammar

def Reader.Reads (settings : Settings) (text : List Char) (v : Tree) : Prop :=
  ∃ r, Reader.start.run settings text = .ok r ∧ r.finish = .ok v

theorem Cursor.parse_eq_ok_iff {settings : Settings} {cur : Cursor} {v : Tree} :
    (cur.parse settings).1 = .ok v ↔ Reader.Reads settings cur.rest v := by
  rw [Cursor.parse_eq_reader]
  unfold Reader.Reads
  cases run : Reader.start.run settings cur.rest with
  | error failed => simp
  | ok r => cases finished : r.finish <;> simp [finished]

namespace Reader

variable {settings : Settings} {frames : Frames} {items : List Tree}

/-! ## What the grammar derives is read -/

theorem run_body {body content : List Char} (h : Body settings.strictEscapes body content)
    (before rest : List Char) :
    run settings ⟨.literal before, frames, items⟩ (body ++ '"' :: rest) =
      run settings ⟨.word [], frames,
        .string (String.ofList (before.reverse ++ content)) :: items⟩ rest := by
  induction h generalizing before with
  | nil =>
      rw [List.nil_append, List.append_nil]
      exact run_of_step .literalEnd rest
  | plain quote backslash _ ih =>
      rw [List.cons_append, run_of_step (.plain quote backslash), ih]
      simp
  | escape meaning _ ih =>
      rw [List.cons_append, List.cons_append, run_of_step .backslash,
        run_of_step (.escaped meaning), ih]
      simp
  | kept lenient meaning _ ih =>
      rw [List.cons_append, List.cons_append, run_of_step .backslash,
        run_of_step (.kept lenient meaning), ih]
      simp

theorem run_comment {body : List Char} (line : '\n' ∉ body) (rest : List Char) :
    run settings ⟨.comment, frames, items⟩ (body ++ rest) =
      run settings ⟨.comment, frames, items⟩ rest := by
  induction body with
  | nil => rfl
  | cons c body ih =>
      obtain ⟨first, line⟩ : '\n' ≠ c ∧ '\n' ∉ body := by simpa using line
      rw [List.cons_append, run_of_step (.commented (Ne.symm first)), ih line]

theorem run_letters {word : List Char} (letters : ∀ c ∈ word, Word.isDelimiter c = false)
    (before rest : List Char) :
    run settings ⟨.word before, frames, items⟩ (word ++ rest) =
      run settings ⟨.word (word.reverse ++ before), frames, items⟩ rest := by
  induction word generalizing before with
  | nil => rfl
  | cons c word ih =>
      obtain ⟨first, letters⟩ := List.forall_mem_cons.mp letters
      rw [List.cons_append, run_of_step (.letter first), ih letters]
      simp

theorem run_word {word : List Char} {atom : Tree} {c : Char} (nonempty : word ≠ [])
    (letters : ∀ c ∈ word, Word.isDelimiter c = false) (value : Bare word atom)
    (delimiter : Word.isDelimiter c = true) (rest : List Char) :
    run settings ⟨.word [], frames, items⟩ (word ++ c :: rest) =
      run settings ⟨.word [], frames, atom :: items⟩ (c :: rest) := by
  have ended : endWord word.reverse items = .ok (atom :: items) :=
    endWord_of_wordEnd (.word (by simpa using nonempty) (by simpa using value))
  have noWord : endWord [] (atom :: items) = .ok (atom :: items) := rfl
  rw [run_letters letters, List.append_nil]
  simp only [run, feed_delimiter delimiter, ended, noWord]

/-- A forest is read through, if there is room for its lists. Only a comment at the
    very end can leave the reader inside a token. -/
theorem run_of_forest {text rest : List Char} {trees : List Tree}
    (h : Forest settings.strictEscapes text trees rest)
    (room : ∀ limit, settings.maxDepth = some limit →
      frames.count + Tree.nestingAll trees ≤ limit) :
    ∃ token, (token = .word [] ∨ token = .comment ∧ rest = []) ∧
      run settings ⟨.word [], frames, items⟩ text =
        run settings ⟨token, frames, trees.reverse ++ items⟩ rest := by
  induction h generalizing frames items with
  | nil => exact ⟨.word [], .inl rfl, rfl⟩
  | blank blank _ ih =>
      rw [run_of_step (.blank blank .noWord)]
      exact ih room
  | comment line _ ih =>
      rw [List.cons_append, run_of_step (.semicolon .noWord), run_comment line,
        run_of_step .commentEnd]
      exact ih room
  | @lastComment body line =>
      refine ⟨.comment, .inr ⟨rfl, rfl⟩, ?_⟩
      rw [run_of_step (.semicolon .noWord)]
      simpa using run_comment line []
  | @list text inner text' trees rest _ _ innerIH outerIH =>
      have innerRoom : ∀ limit, settings.maxDepth = some limit →
          (frames.push items).count + Tree.nestingAll inner ≤ limit := by
        intro limit limited
        have := room limit limited
        simp only [Tree.nestingAll_cons, Tree.nesting_list, Frames.count_push] at this ⊢
        omega
      have outerRoom : ∀ limit, settings.maxDepth = some limit →
          frames.count + Tree.nestingAll trees ≤ limit := by
        intro limit limited
        have := room limit limited
        simp only [Tree.nestingAll_cons] at this
        omega
      have opened :
          Step settings ⟨.word [], frames, items⟩ '(' ⟨.word [], frames.push items, []⟩ := by
        apply Step.opened .noWord
        intro limit limited
        have := innerRoom limit limited
        simp only [Frames.count_push] at this
        omega
      obtain ⟨token, between, inside⟩ := @innerIH _ [] innerRoom
      -- The text goes on with the closing parenthesis, so no comment is open there.
      obtain rfl : token = .word [] := by simpa using between
      obtain ⟨token, between, behind⟩ := @outerIH _ (.list inner :: items) outerRoom
      refine ⟨token, between, ?_⟩
      rw [run_of_step opened, inside, run_of_step (.closed .noWord)]
      simpa using behind
  | string literal _ ih =>
      obtain ⟨token, between, behind⟩ := ih (by simpa using room)
      refine ⟨token, between, ?_⟩
      rw [List.cons_append, run_of_step (.quote .noWord), run_body literal, List.reverse_nil,
        List.nil_append, behind]
      simp
  | @word word atom c text trees rest nonempty letters value delimiter _ ih =>
      obtain ⟨token, between, behind⟩ := ih (by simpa [value.nesting] using room)
      refine ⟨token, between, ?_⟩
      rw [run_word nonempty letters value delimiter, behind]
      simp

end Reader

/-! ## What is read is derived by the grammar -/

theorem Grammar.Body.append {strict : Bool} {body body' content content' : List Char}
    (h : Body strict body content) (h' : Body strict body' content') :
    Body strict (body ++ body') (content ++ content') := by
  induction h with
  | nil => exact h'
  | plain quote backslash _ ih => exact .plain quote backslash ih
  | escape meaning _ ih => exact .escape meaning ih
  | kept lenient meaning _ ih => exact .kept lenient meaning ih

namespace Reader

/-- The characters of the text that a token in progress has taken. -/
inductive Pending (strict : Bool) : Token → List Char → Prop where
  | word {letters} (plain : ∀ c ∈ letters, Word.isDelimiter c = false) :
      Pending strict (.word letters) letters.reverse
  | comment {body} (line : '\n' ∉ body) : Pending strict .comment (';' :: body)
  | literal {body source} (content : Body strict source body.reverse) :
      Pending strict (.literal body) ('"' :: source)
  | escape {body source} (content : Body strict source body.reverse) :
      Pending strict (.escape body) ('"' :: source ++ ['\\'])

/-- What the text still has to be when these lists are open, the innermost first:
    each list wants the rest of its items and its closing parenthesis, and the
    outermost one, which is the text itself, wants the end. The trees are those of
    the whole text. -/
inductive Demands (strict : Bool) :
    List Char → List Tree → List (List Tree) → List Tree → Prop where
  | text {text items more} (rest : Forest strict text more []) :
      Demands strict text items [] (items.reverse ++ more)
  | list {text text' items more outer lists trees} (rest : Forest strict text more (')' :: text'))
      (around : Demands strict text' (.list (items.reverse ++ more) :: outer) lists trees) :
      Demands strict text items (outer :: lists) trees

theorem Demands.prepend {strict : Bool} {text text' : List Char} {items trees : List Tree}
    {lists : List (List Tree)} (added : List Tree)
    (h : Demands strict text (added.reverse ++ items) lists trees)
    (element : ∀ {more rest}, Forest strict text more rest →
      Forest strict text' (added ++ more) rest) :
    Demands strict text' items lists trees := by
  cases h with
  | text rest => simpa using @Demands.text strict _ items _ (element rest)
  | list rest around => exact .list (element rest) (by simpa using around)

theorem Demands.wordEnd {strict : Bool} {letters text : List Char} {c : Char}
    {items items' trees : List Tree} {lists : List (List Tree)}
    (ended : WordEnd letters items items')
    (plain : ∀ c ∈ letters, Word.isDelimiter c = false) (delimiter : Word.isDelimiter c = true)
    (h : Demands strict (c :: text) items' lists trees) :
    Demands strict (letters.reverse ++ c :: text) items lists trees := by
  cases ended with
  | noWord => exact h
  | word nonempty value =>
      exact h.prepend [_] fun rest =>
        .word (by simpa using nonempty) (by simpa using plain) value delimiter rest

theorem Demands.opened {strict : Bool} {text : List Char} {items trees : List Tree}
    {lists : List (List Tree)} (h : Demands strict text [] (items :: lists) trees) :
    Demands strict ('(' :: text) items lists trees := by
  cases h with
  | list rest around => exact around.prepend [_] fun more => .list rest more

/-- Going back over a step: what is demanded behind the character is demanded
    before it, with the character put back. The character goes on with the token, or it
    begins or ends one. -/
theorem Step.demands {r r' : Reader} {c : Char} (step : Step settings r c r') {seen : List Char}
    (pending : Pending settings.strictEscapes r.token seen) :
    ∃ seen', Pending settings.strictEscapes r'.token seen' ∧
      (seen' = seen ++ [c] ∨ (∃ letters, r.token = .word letters) ∧ seen' = [c] ∨
        r'.token = .word [] ∧ seen' = []) ∧
      ∀ {text trees},
        Demands settings.strictEscapes (seen' ++ text) r'.items r'.frames.lists trees →
        Demands settings.strictEscapes (seen ++ c :: text) r.items r.frames.lists trees := by
  cases step with
  | letter letter =>
      cases pending with
      | word plain =>
          exact ⟨_, .word (List.forall_mem_cons.mpr ⟨letter, plain⟩), .inl (by simp), by simp⟩
  | blank blank ended =>
      cases pending with
      | word plain =>
          refine ⟨[], .word (by simp), .inr (.inr ⟨rfl, rfl⟩), ?_⟩
          intro text trees h
          apply Demands.wordEnd ended plain (isDelimiter_of_isBlank blank)
          exact h.prepend [] fun rest => .blank blank rest
  | semicolon ended =>
      cases pending with
      | word plain =>
          refine ⟨[';'], .comment (by simp), .inr (.inl ⟨⟨_, rfl⟩, rfl⟩), ?_⟩
          intro text trees h
          exact h.wordEnd ended plain rfl
  | quote ended =>
      cases pending with
      | word plain =>
          refine ⟨['"'], .literal .nil, .inr (.inl ⟨⟨_, rfl⟩, rfl⟩), ?_⟩
          intro text trees h
          exact h.wordEnd ended plain rfl
  | opened ended =>
      cases pending with
      | word plain =>
          refine ⟨[], .word (by simp), .inr (.inr ⟨rfl, rfl⟩), ?_⟩
          intro text trees h
          exact h.opened.wordEnd ended plain rfl
  | closed ended =>
      cases pending with
      | word plain =>
          refine ⟨[], .word (by simp), .inr (.inr ⟨rfl, rfl⟩), ?_⟩
          intro text trees h
          apply Demands.wordEnd ended plain rfl
          exact .list .nil (by simpa using h)
  | commented first =>
      cases pending with
      | @comment body line =>
          refine ⟨';' :: (body ++ [c]), .comment ?_, .inl rfl, by simp⟩
          simpa using ⟨line, Ne.symm first⟩
  | commentEnd =>
      cases pending with
      | comment line =>
          refine ⟨[], .word (by simp), .inr (.inr ⟨rfl, rfl⟩), ?_⟩
          intro text trees h
          exact h.prepend [] fun rest => .comment line rest
  | plain quote backslash =>
      cases pending with
      | @literal body source content =>
          refine ⟨'"' :: (source ++ [c]), .literal ?_, .inl rfl, by simp⟩
          simpa using content.append (.plain quote backslash .nil)
  | backslash =>
      cases pending with
      | literal content => exact ⟨_, .escape content, .inl rfl, by simp⟩
  | literalEnd =>
      cases pending with
      | literal content =>
          refine ⟨[], .word (by simp), .inr (.inr ⟨rfl, rfl⟩), ?_⟩
          intro text trees h
          exact h.prepend [_] fun rest => .string content rest
  | @escaped body frames items c meant meaning =>
      cases pending with
      | @escape body source content =>
          refine ⟨'"' :: (source ++ ['\\', c]), .literal ?_, .inl (by simp), by simp⟩
          simpa using content.append (.escape meaning .nil)
  | @kept body frames items c lenient meaning =>
      cases pending with
      | @escape body source content =>
          refine ⟨'"' :: (source ++ ['\\', c]), .literal ?_, .inl (by simp), by simp⟩
          simpa using content.append (.kept lenient meaning .nil)

theorem run_demands {r r' : Reader} {text seen : List Char} {trees : List Tree}
    (run : r.run settings text = .ok r') (finished : r'.finish = .ok (.list trees))
    (pending : Pending settings.strictEscapes r.token seen) :
    Demands settings.strictEscapes (seen ++ text) r.items r.frames.lists trees := by
  induction text generalizing r seen with
  | nil =>
      obtain rfl : r = r' := by simpa [Reader.run] using run
      obtain ⟨between, outermost, same⟩ := finish_eq_ok_iff.mp finished
      obtain ⟨token, frames, items⟩ := r
      simp only [Tree.list.injEq] at between outermost same ⊢
      subst outermost same
      rcases between with rfl | rfl
      · cases pending with
        | word => simpa using @Demands.text settings.strictEscapes _ items _ .nil
      · cases pending with
        | comment line => simpa using @Demands.text _ _ items _ (.lastComment line)
  | cons c text ih =>
      obtain ⟨next, step, run⟩ := run_cons_eq_ok_iff.mp run
      obtain ⟨seen', pending', -, back⟩ := step.demands pending
      exact back (ih run pending')

theorem reads_iff {text : List Char} {v : Tree} :
    Reads settings text v ↔
      ∃ trees, v = .list trees ∧ Forest settings.strictEscapes text trees [] ∧
        ∀ limit, settings.maxDepth = some limit → Tree.nestingAll trees ≤ limit := by
  constructor
  · rintro ⟨r, run, finished⟩
    obtain ⟨-, outermost, rfl⟩ := finish_eq_ok_iff.mp finished
    refine ⟨r.items.reverse, rfl, ?_, ?_⟩
    · have pending : Pending settings.strictEscapes start.token [] := .word (by simp)
      have demands := run_demands run finished pending
      cases demands with
      | text rest => simpa [start] using rest
    · intro limit limited
      have := (run_nestedWithin limited run).1
      simpa [outermost] using this
  · rintro ⟨trees, rfl, forest, room⟩
    obtain ⟨token, between, run⟩ :=
      @run_of_forest settings .empty [] _ _ _ forest (by simpa [Frames.empty] using room)
    refine ⟨⟨token, .empty, trees.reverse⟩, by simpa [start, Reader.run] using run, ?_⟩
    refine finish_eq_ok_iff.mpr ⟨?_, rfl, by simp⟩
    exact between.imp_right And.left

end Reader

theorem parseWith_text_eq_ok_iff {settings : Settings} {text : String}
    {fileName : Option String} {v : Tree} :
    parseWith settings (.text text) fileName = .ok v ↔ Reader.Reads settings text.toList v := by
  rw [parseWith_text, mapError_eq_ok_iff, Cursor.parse_eq_ok_iff, Cursor.rest_ofText]

/-- A text is parsed exactly if it is a forest, of trees that nest no deeper than
    the limit, where there is one. They are the items of the tree that it gives. -/
theorem parseWith_eq_ok_iff_forest (settings : Settings) (text : String)
    (fileName : Option String) (v : Tree) :
    parseWith settings (.text text) fileName = .ok v ↔
      ∃ trees, v = .list trees ∧ Forest settings.strictEscapes text.toList trees [] ∧
        ∀ limit, settings.maxDepth = some limit → Tree.nestingAll trees ≤ limit := by
  rw [parseWith_text_eq_ok_iff, Reader.reads_iff]

end Sexpr
