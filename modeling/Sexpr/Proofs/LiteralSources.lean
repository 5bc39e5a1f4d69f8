import Sexpr.Proofs.RoundTrip

/-! # The sources of a string literal

A text has one written form as a string literal, and this form is read back between any
other items. A literal can have other sources: raw newlines and tabs, and pairs that are no
escape. All of them are respelled in the written form, and nothing else is changed.
-/

namespace Sexpr

open Grammar

namespace Literal

/-! ## The written form of a source -/

def respellChar : Char → List Char
  | '\n' => ['\\', 'n']
  | '\t' => ['\\', 't']
  | c => [c]

/-- The source of a literal with an escape in place of each raw newline and tab, and with
    the backslash doubled of each pair that is no escape. The character behind such a
    backslash is then one without a backslash. -/
def respell : List Char → List Char
  | '\\' :: c :: body =>
      if c ∈ ['"', '\\', 'n', 't'] then '\\' :: c :: respell body
      else '\\' :: '\\' :: (respellChar c ++ respell body)
  | c :: body => respellChar c ++ respell body
  | [] => []

theorem respell_cons {c : Char} (backslash : c ≠ '\\') (body : List Char) :
    respell (c :: body) = respellChar c ++ respell body := by
  rw [respell]
  intro _ _ same
  exact absurd same backslash

theorem encode_cons (c : Char) (text : List Char) :
    encode (c :: text) = encodeChar c ++ encode text :=
  List.flatMap_cons

theorem encodeChar_eq_respellChar {c : Char} (quote : c ≠ '"') (backslash : c ≠ '\\') :
    encodeChar c = respellChar c := by
  unfold encodeChar respellChar
  split <;> simp_all

theorem encodeChar_of_escape {c meant : Char} (meaning : Escape c meant) (body : List Char) :
    encodeChar meant ++ respell body = respell ('\\' :: c :: body) := by
  cases meaning <;> rfl

theorem not_mem_of_meaningless {c : Char} (meaning : ∀ meant, ¬Escape c meant) :
    c ∉ ['"', '\\', 'n', 't'] := by
  intro member
  simp only [List.mem_cons, List.not_mem_nil, or_false] at member
  rcases member with rfl | rfl | rfl | rfl
  · exact meaning _ .quote
  · exact meaning _ .backslash
  · exact meaning _ .newline
  · exact meaning _ .tab

theorem respell_kept {c : Char} (meaning : ∀ meant, ¬Escape c meant) (body : List Char) :
    respell ('\\' :: c :: body) = '\\' :: '\\' :: (respellChar c ++ respell body) := by
  rw [respell, if_neg (not_mem_of_meaningless meaning)]

theorem encode_eq_respell {strict : Bool} {body text : List Char} (h : Body strict body text) :
    encode text = respell body := by
  induction h with
  | nil => rfl
  | plain quote backslash _ ih =>
      rw [encode_cons, respell_cons backslash, encodeChar_eq_respellChar quote backslash, ih]
  | escape meaning _ ih => rw [encode_cons, ih, encodeChar_of_escape meaning]
  | @kept c _ _ lenient meaning _ ih =>
      have quote : c ≠ '"' := by
        rintro rfl
        exact meaning _ .quote
      have backslash : c ≠ '\\' := by
        rintro rfl
        exact meaning _ .backslash
      rw [encode_cons, encode_cons, encodeChar_eq_respellChar quote backslash, ih,
        respell_kept meaning]
      rfl

end Literal

namespace Reader

variable {settings : Settings} {frames : Frames} {items : List Tree}

/-! ## Nothing that has been read is lost -/

/-- How many nodes all open lists are made of, the lists themselves counted in. -/
def nodes (r : Reader) : Nat :=
  Tree.sizeAll r.items + Tree.sizeAll (r.frames.lists.map Tree.list)

theorem WordEnd.sizeAll_le {letters : List Char} {items items' : List Tree}
    (ended : WordEnd letters items items') : Tree.sizeAll items ≤ Tree.sizeAll items' := by
  cases ended with
  | noWord => exact Nat.le_refl _
  | word => exact Nat.le_add_left _ _

/-- A step never takes a node away, and the end of a literal adds one. -/
theorem Step.nodes_le {r r' : Reader} {c : Char} (step : Step settings r c r') :
    r.nodes ≤ r'.nodes := by
  cases step with
  | letter | commented | commentEnd | plain | backslash | escaped | kept => exact Nat.le_refl _
  | blank _ ended | semicolon ended | quote ended =>
      exact Nat.add_le_add_right ended.sizeAll_le _
  | opened ended =>
      have := ended.sizeAll_le
      simp only [nodes, Frames.lists_push, List.map_cons, Tree.sizeAll_cons, Tree.size_list,
        Tree.sizeAll_nil]
      omega
  | closed ended =>
      have := ended.sizeAll_le
      simp only [nodes, Frames.lists_push, List.map_cons, Tree.sizeAll_cons, Tree.size_list,
        Tree.sizeAll_reverse]
      omega
  | literalEnd => simp [nodes]

/-! ## Literals of any spelling -/

inductive WithinLiteral (strict : Bool) : Token → List Char → Prop where
  | literal {body source} (content : Body strict source body.reverse) :
      WithinLiteral strict (.literal body) source
  | escape {body source} (content : Body strict source body.reverse) :
      WithinLiteral strict (.escape body) (source ++ ['\\'])

theorem Step.withinLiteral {r r' : Reader} {c : Char} (step : Step settings r c r')
    {source : List Char} (within : WithinLiteral settings.strictEscapes r.token source) :
    WithinLiteral settings.strictEscapes r'.token (source ++ [c]) ∧
        r'.frames = r.frames ∧ r'.items = r.items ∨
      r.nodes < r'.nodes := by
  obtain ⟨token, frames, items⟩ := r
  cases within with
  | @literal body source content =>
      cases step with
      | plain quote backslash =>
          refine .inl ⟨.literal ?_, rfl, rfl⟩
          simpa using content.append (.plain quote backslash .nil)
      | backslash => exact .inl ⟨.escape content, rfl, rfl⟩
      | literalEnd => exact .inr (by simp [nodes])
  | @escape body source content =>
      cases step with
      | escaped meaning =>
          refine .inl ⟨.literal ?_, rfl, rfl⟩
          simpa using content.append (.escape meaning .nil)
      | kept lenient meaning =>
          refine .inl ⟨.literal ?_, rfl, rfl⟩
          simpa using content.append (.kept lenient meaning .nil)

/-- A reader that was between these items is still in the literal that began there, or it
    holds more than it did. -/
def InLiteralOrPast (strict : Bool) (frames : Frames) (items : List Tree) (source : List Char)
    (r : Reader) : Prop :=
  WithinLiteral strict r.token source ∧ r.frames = frames ∧ r.items = items ∨
    nodes ⟨.word [], frames, items⟩ < r.nodes

theorem Step.inLiteralOrPast {r r' : Reader} {c : Char} (step : Step settings r c r')
    {source : List Char} (before : InLiteralOrPast settings.strictEscapes frames items source r) :
    InLiteralOrPast settings.strictEscapes frames items (source ++ [c]) r' := by
  rcases before with ⟨within, rfl, rfl⟩ | more
  · exact step.withinLiteral within
  · exact .inr (Nat.lt_of_lt_of_le more step.nodes_le)

theorem withinLiteral_of_run {r : Reader} {source : List Char}
    (run : run settings ⟨.literal [], frames, items⟩ source = .ok r)
    (same : r.nodes ≤ nodes ⟨.word [], frames, items⟩) :
    WithinLiteral settings.strictEscapes r.token source ∧ r.frames = frames ∧ r.items = items := by
  have start : InLiteralOrPast settings.strictEscapes frames items [] ⟨.literal [], frames, items⟩ :=
    .inl ⟨.literal .nil, rfl, rfl⟩
  have kept : InLiteralOrPast settings.strictEscapes frames items source r :=
    run_keeps (InLiteralOrPast settings.strictEscapes frames items)
      (fun step before => step.inLiteralOrPast before) run [] start
  exact kept.resolve_right (Nat.not_lt_of_le same)

/-- Between quotes, exactly the bodies of the grammar are read as one literal. -/
theorem run_quoted_iff {body : List Char} {text : String} :
    run settings ⟨.word [], frames, items⟩ ('"' :: body ++ ['"']) =
        .ok ⟨.word [], frames, .string text :: items⟩ ↔
      Body settings.strictEscapes body text.toList := by
  rw [List.cons_append, run_of_step (.quote .noWord)]
  constructor
  · intro read
    obtain ⟨r, inside, step⟩ := run_concat_eq_ok_iff.mp read
    cases step with
    | blank blank => rcases blank with h | h | h <;> cases h
    | literalEnd =>
        obtain ⟨within, -, -⟩ := withinLiteral_of_run inside (Nat.le_refl _)
        cases within with
        | literal content => simpa using content
  · intro content
    rw [run_body content]
    simp [run]

/-- Between any other items, the written form of a text is read as the literal with this
    text and nothing else, and leaves nothing in a buffer. A source between quotes that is read
    as this literal is respelled in the written form. -/
theorem run_literal_sources (settings : Settings) (frames : Frames) (items : List Tree)
    (text : String) :
    run settings ⟨.word [], frames, items⟩ (Literal.render text).toList =
        .ok ⟨.word [], frames, .string text :: items⟩ ∧
      (∀ body, run settings ⟨.word [], frames, items⟩ ('"' :: body ++ ['"']) =
          .ok ⟨.word [], frames, .string text :: items⟩ →
        (Literal.render text).toList = '"' :: Literal.respell body ++ ['"']) ∧
      Machine.run settings ⟨.plain, frames, items, [], []⟩ (Literal.render text).toList =
        .ok ⟨.plain, frames, .string text :: items, [], []⟩ := by
  have written : run settings ⟨.word [], frames, items⟩ (Literal.render text).toList =
      .ok ⟨.word [], frames, .string text :: items⟩ := by
    rw [Literal.toList_render]
    exact run_quoted_iff.mpr (.encode _ _)
  refine ⟨written, ?_, run_machine_of_ok written⟩
  intro body read
  rw [Literal.toList_render, Literal.encode_eq_respell (run_quoted_iff.mp read)]

theorem run_literal_sources_lenient :
    let text := "\t\\q\\\n\\\""
    run .lenient start "\"\t\\q\\\n\\\\\\\"\"".toList = .ok ⟨.word [], .empty, [.string text]⟩ ∧
      (Literal.render text).toList = "\"\\t\\\\q\\\\\\n\\\\\\\"\"".toList := by
  intro text
  have read : run .lenient ⟨.word [], .empty, []⟩
      ('"' :: "\t\\q\\\n\\\\\\\"".toList ++ ['"']) =
      .ok ⟨.word [], .empty, [.string text]⟩ := by rfl
  exact ⟨read, (run_literal_sources .lenient .empty [] text).2.1 _ read⟩

end Reader

end Sexpr
