import Sexpr.Tree
import Sexpr.Word

/-! # Trees that can be written and read back

A symbol is written as its bare name. So a tree can only come back from its
written form when each name in it is a bare word, and the word of a symbol.
-/

namespace Sexpr.Tree

/-- Is a symbol with this name read from it as a bare word? -/
def IsName (name : List Char) : Prop :=
  name ≠ [] ∧ (∀ c ∈ name, Word.isDelimiter c = false) ∧ Word.ofChars name = .symbol

mutual
/-- All symbols of a tree have names that can be read. -/
def Readable : Tree → Prop
  | .symbol name => IsName name.toList
  | .list items => AllReadable items
  | _ => True

def AllReadable : List Tree → Prop
  | [] => True
  | t :: ts => t.Readable ∧ AllReadable ts
end

theorem allReadable_iff (ts : List Tree) : AllReadable ts ↔ ∀ t ∈ ts, t.Readable := by
  induction ts with
  | nil => simp [AllReadable]
  | cons t ts ih => simp [AllReadable, ih]

end Sexpr.Tree
