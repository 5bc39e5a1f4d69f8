import Sexpr.Tree
import Sexpr.Word

/-! # What a text says

The grammar of texts, as a relation between a text, the trees at its front, and
what is left of the text behind them. It says what a text means without saying
how it is read: a list is a sequence of trees between parentheses, whatever its
depth.
-/

namespace Sexpr.Grammar

/-- The pairs of a backslash and a character that have a meaning, and what each means. -/
inductive Escape : Char → Char → Prop where
  | quote : Escape '"' '"'
  | backslash : Escape '\\' '\\'
  | newline : Escape 'n' '\n'
  | tab : Escape 't' '\t'

/-- A body between the quotes of a string literal, and the text it stands for.
    Where it is strict, every backslash begins an escape with a meaning. -/
inductive Body (strict : Bool) : List Char → List Char → Prop where
  | nil : Body strict [] []
  | plain {c body text} (quote : c ≠ '"') (backslash : c ≠ '\\') :
      Body strict body text → Body strict (c :: body) (c :: text)
  | escape {c meant body text} (meaning : Escape c meant) :
      Body strict body text → Body strict ('\\' :: c :: body) (meant :: text)
  /-- A pair without a meaning stands for its two characters. -/
  | kept {c body text} (lenient : strict = false) (meaning : ∀ meant, ¬Escape c meant) :
      Body strict body text → Body strict ('\\' :: c :: body) ('\\' :: c :: text)

/-- A bare word and the atom it stands for. -/
inductive Bare : List Char → Tree → Prop where
  | integer {word n} (value : Word.ofChars word = .integer n) : Bare word (.integer n)
  | symbol {word} (value : Word.ofChars word = .symbol) :
      Bare word (.symbol (String.ofList word))

/-- The characters that only separate. -/
def IsBlank (c : Char) : Prop :=
  c = ' ' ∨ c = '\t' ∨ c = '\n'

/-- The text has these trees at its front, and this rest behind them. -/
inductive Forest (strict : Bool) : List Char → List Tree → List Char → Prop where
  | nil {rest} : Forest strict rest [] rest
  | blank {c text trees rest} (blank : IsBlank c) :
      Forest strict text trees rest → Forest strict (c :: text) trees rest
  | comment {body text trees rest} (line : '\n' ∉ body) :
      Forest strict text trees rest → Forest strict (';' :: body ++ '\n' :: text) trees rest
  /-- The last line of the text may be a comment without a newline. -/
  | lastComment {body} (line : '\n' ∉ body) : Forest strict (';' :: body) [] []
  | list {text items text' trees rest} :
      Forest strict text items (')' :: text') → Forest strict text' trees rest →
      Forest strict ('(' :: text) (.list items :: trees) rest
  | string {body content text trees rest} (literal : Body strict body content) :
      Forest strict text trees rest →
      Forest strict ('"' :: body ++ '"' :: text) (.string (String.ofList content) :: trees) rest
  /-- A bare word ends at a delimiter, which is not part of it. -/
  | word {word atom c text trees rest} (nonempty : word ≠ [])
      (letters : ∀ letter ∈ word, Word.isDelimiter letter = false) (value : Bare word atom)
      (delimiter : Word.isDelimiter c = true) :
      Forest strict (c :: text) trees rest →
      Forest strict (word ++ c :: text) (atom :: trees) rest

end Sexpr.Grammar
