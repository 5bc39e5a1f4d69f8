import Sexpr.Proofs.Outcomes

/-! # The characters behind a token

A reader keeps the letters of a bare word, and knows that it stands behind a
backslash. It does not keep where these characters are, but they are always the
last ones it has taken, and a word goes back to the delimiter before it.
-/

namespace Sexpr

namespace Reader

/-- The characters taken so far end with those of the token in progress. -/
def EndsWithToken (read : List Char) (r : Reader) : Prop :=
  match r.token with
  | .word letters =>
      (∀ c ∈ letters, Word.isDelimiter c = false) ∧
        ∃ before, read = before ++ letters.reverse ∧
          ∀ c ∈ before.getLast?, Word.isDelimiter c = true
  | .escape _ => ∃ before, read = before ++ ['\\']
  | .comment | .literal _ => True

theorem endsWithToken_delimiter (read : List Char) {c : Char}
    (delimiter : Word.isDelimiter c = true) (frames : Frames) (items : List Tree) :
    EndsWithToken (read ++ [c]) ⟨.word [], frames, items⟩ :=
  ⟨by simp, read ++ [c], by simp, by simpa using delimiter⟩

theorem Step.endsWithToken {settings : Settings} {r r' : Reader} {c : Char} {read : List Char}
    (h : Step settings r c r') (before : EndsWithToken read r) :
    EndsWithToken (read ++ [c]) r' := by
  cases h with
  | letter plain =>
      obtain ⟨letters, start, rfl, delimiter⟩ := before
      exact ⟨List.forall_mem_cons.mpr ⟨plain, letters⟩, start, by simp, delimiter⟩
  | blank blank => exact endsWithToken_delimiter read (isDelimiter_of_isBlank blank) _ _
  | opened | closed | commentEnd | literalEnd => exact endsWithToken_delimiter read rfl _ _
  | backslash => exact ⟨read, rfl⟩
  | semicolon | quote | commented | plain | escaped | kept => trivial

theorem run_endsWithToken {settings : Settings} {r : Reader} {read : List Char}
    (run : start.run settings read = .ok r) : EndsWithToken read r :=
  run_keeps EndsWithToken (fun step before => step.endsWithToken before) run []
    ⟨by simp, [], rfl, by simp⟩

theorem newline_not_mem_of_plain {word : List Char}
    (plain : ∀ c ∈ word, Word.isDelimiter c = false) : '\n' ∉ word :=
  not_mem_of_isDelimiter plain rfl

/-- A word that is refused has at least one letter on the line of the character
    that ends it, so that there is a column before that character. -/
theorem Refusal.place_shift {settings : Settings} {r : Reader} {c : Char} {fault : Fault}
    {read : List Char} (h : Refusal settings r c fault) (ends : EndsWithToken read r)
    (base : Pos) :
    fault.place (base.shift (Pos.start.afterAll read)) =
      base.shift (fault.place (Pos.start.afterAll read)) := by
  cases h with
  | tooDeep | unopened | escape => rfl
  | @malformed letters frames items c radix delimiter nonempty value =>
      obtain ⟨plain, before, rfl, -⟩ := ends
      have line : '\n' ∉ letters.reverse := newline_not_mem_of_plain (by simpa using plain)
      have some : 0 < letters.length := List.length_pos_iff.mpr nonempty
      rw [Pos.afterAll_append, Pos.afterAll_of_not_mem line]
      simp only [Fault.place, Pos.shift, List.length_reverse]
      split <;> simp only [Pos.mk.injEq, true_and]
      omega

end Reader

end Sexpr
