import Sexpr.Proofs.Tokens

/-! # The parts of a text

Comments and string literals hide what stands in them. Where they begin and end can be
told from the characters alone, without the lists around them, and it is where the
reader takes them to be.
-/

namespace Sexpr

namespace Region

def after : Region → Char → Region
  | .plain, ';' => .comment
  | .plain, '"' => .literal
  | .plain, _ => .plain
  | .comment, '\n' => .plain
  | .comment, _ => .comment
  | .literal, '"' => .plain
  | .literal, '\\' => .escape
  | .literal, _ => .literal
  | .escape, _ => .literal

def atEnd (text : List Char) : Region :=
  text.foldl after .plain

theorem atEnd_concat (text : List Char) (c : Char) :
    atEnd (text ++ [c]) = (atEnd text).after c := by
  simp [atEnd, List.foldl_append]

theorem after_plain {c : Char} (comment : c ≠ ';') (literal : c ≠ '"') :
    Region.plain.after c = .plain := by
  unfold after
  split <;> simp_all

def shown : Region → Char → Char
  | .plain, c => c
  | _, _ => ' '

/-- The text with a space in place of every character inside a comment or a string literal.
    The `;` or the `"` that one begins with is still to be seen. -/
def outside : Region → List Char → List Char
  | _, [] => []
  | region, c :: text => region.shown c :: (region.after c).outside text

theorem outside_concat (region : Region) (text : List Char) (c : Char) :
    region.outside (text ++ [c]) = region.outside text ++ [(text.foldl after region).shown c] := by
  induction text generalizing region with
  | nil => rfl
  | cons d text ih => simp only [List.cons_append, outside, ih, List.foldl_cons]

end Region

/-- The bare word that a text ends with: the letters behind the last delimiter, unless
    the text ends in a comment or in a string literal. -/
def pendingWord (text : List Char) : List Char :=
  if Region.atEnd text = .plain then text.rtakeWhile fun c => !Word.isDelimiter c else []

theorem pendingWord_suffix (text : List Char) : pendingWord text <:+ text := by
  unfold pendingWord
  split
  · exact List.rtakeWhile_suffix _ text
  · exact List.nil_suffix

def Token.region : Token → Region
  | .word _ => .plain
  | .comment => .comment
  | .literal _ => .literal
  | .escape _ => .escape

def Token.letters : Token → List Char
  | .word letters => letters.reverse
  | .comment | .literal _ | .escape _ => []

namespace Reader

variable {settings : Settings}

theorem Step.region_eq {r r' : Reader} {c : Char} (step : Step settings r c r') :
    r'.token.region = r.token.region.after c := by
  cases step with
  | letter plain =>
      exact (Region.after_plain (ne_of_isDelimiter plain rfl) (ne_of_isDelimiter plain rfl)).symm
  | blank blank => rcases blank with rfl | rfl | rfl <;> rfl
  | semicolon | quote | opened | closed | commentEnd | backslash | literalEnd => rfl
  | commented line => simp only [Token.region, Region.after]
  | plain quote backslash => simp only [Token.region, Region.after]
  | escaped | kept => simp only [Token.region, Region.after]

theorem region_of_run {text : List Char} {r : Reader} (run : start.run settings text = .ok r) :
    Region.atEnd text = r.token.region := by
  apply run_keeps (fun read r => Region.atEnd read = r.token.region) ?_ run [] rfl
  intro read r c r' step before
  rw [Region.atEnd_concat, before, step.region_eq]

/-- The characters that a reader takes are seen as they are in the part of the text that its
    token is in. -/
theorem outside_concat_of_run {text : List Char} {r : Reader}
    (run : start.run settings text = .ok r) (c : Char) :
    Region.plain.outside (text ++ [c]) = Region.plain.outside text ++ [r.token.region.shown c] := by
  rw [Region.outside_concat, ← region_of_run run, Region.atEnd]

theorem finish_eq_unterminatedString_iff {r : Reader} :
    r.finish = .error .unterminatedString ↔
      r.token.region = .literal ∨ r.token.region = .escape := by
  unfold finish
  split
  · next literal => simp [literal, Token.region]
  · next escape => simp [escape, Token.region]
  · next word => simp [word, Token.region]
  · next word => split <;> simp [word, Token.region]
  · next comment => split <;> simp [comment, Token.region]

theorem pendingWord_of_run {text letters : List Char} {r : Reader}
    (run : start.run settings text = .ok r) (word : r.token = .word letters) :
    pendingWord text = letters.reverse := by
  have plain : Region.atEnd text = .plain := by rw [region_of_run run, word]; rfl
  have ends := run_endsWithToken run
  simp only [EndsWithToken, word] at ends
  obtain ⟨within, before, rfl, last⟩ := ends
  rw [pendingWord, if_pos plain]
  exact rtakeWhile_append_of_last (by simpa using within) (by simpa using last)

theorem pendingWord_eq_letters {text : List Char} {r : Reader}
    (run : start.run settings text = .ok r) :
    pendingWord text = r.token.letters := by
  cases token : r.token with
  | word letters => exact pendingWord_of_run run token
  | comment | literal body | escape body =>
      apply if_neg
      rw [region_of_run run, token]
      simp [Token.region]

theorem isDelimiter_letters {text : List Char} {r : Reader}
    (run : start.run settings text = .ok r) :
    ∀ c ∈ r.token.letters, Word.isDelimiter c = false := by
  have ends := run_endsWithToken run
  cases token : r.token with
  | word letters =>
      simp only [EndsWithToken, token] at ends
      simpa [Token.letters] using ends.1
  | comment | literal body | escape body => simp [Token.letters]

end Reader

end Sexpr
