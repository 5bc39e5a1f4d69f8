import Sexpr.Proofs.Acceptance
import Sexpr.Proofs.Numerals
import Sexpr.Proofs.Printing
import Sexpr.Tree.Readable

/-! # Written trees are read back

Each written form of a readable tree is an element of the grammar, in front of any text
that a delimiter begins. In the other direction the grammar derives no tree that is not
readable, whatever the text, so no other tree comes back.
-/

namespace Sexpr

open Grammar

/-! ## The written forms are derived by the grammar -/

theorem Grammar.Body.encode (strict : Bool) (text : List Char) :
    Body strict (Literal.encode text) text := by
  induction text with
  | nil => exact .nil
  | cons c text ih =>
      rw [Literal.encode, List.flatMap_cons]
      unfold Literal.encodeChar
      split
      · exact .escape .quote ih
      · exact .escape .backslash ih
      · exact .escape .newline ih
      · exact .escape .tab ih
      · next quote backslash _ _ => exact .plain quote backslash ih

theorem Literal.toList_render (text : String) :
    (Literal.render text).toList = '"' :: Literal.encode text.toList ++ ['"'] := by
  simp [Literal.render]

namespace Grammar

variable {strict : Bool}

theorem Forest.blanks {blanks text rest : List Char} {trees : List Tree}
    (blank : ∀ c ∈ blanks, IsBlank c) (behind : Forest strict text trees rest) :
    Forest strict (blanks ++ text) trees rest := by
  induction blanks with
  | nil => exact behind
  | cons c blanks ih =>
      obtain ⟨first, blank⟩ := List.forall_mem_cons.mp blank
      exact .blank first (ih blank)

/-- These characters stand for this tree, in front of any text that a delimiter begins. -/
structure Written (strict : Bool) (written : List Char) (t : Tree) : Prop where
  read : ∀ {c text trees rest}, Word.isDelimiter c = true → Forest strict (c :: text) trees rest →
    Forest strict (written ++ c :: text) (t :: trees) rest

theorem Written.atom {t : Tree} (readable : t.Readable) (atom : ∀ items, t ≠ .list items) :
    Written strict t.atomText.toList t := by
  constructor
  intro c text trees rest delimiter behind
  cases t with
  | list items => exact absurd rfl (atom items)
  | integer n =>
      exact .word (Word.toString_ne_nil n) (Word.isDelimiter_toString n)
        (.integer (Word.ofChars_toString n)) delimiter behind
  | symbol name =>
      obtain ⟨nonempty, letters, value⟩ := readable
      have word := Forest.word nonempty letters (.symbol value) delimiter behind
      simpa [Tree.atomText] using word
  | string content =>
      have literal := Forest.string (Body.encode strict content.toList) behind
      simpa [Tree.atomText, Literal.toList_render] using literal

variable {write : Tree → String} {separator : String} {items : List Tree}

theorem Forest.interspersed (blank : ∀ c ∈ separator.toList, IsBlank c)
    (some : separator.toList ≠ []) (written : ∀ t ∈ items, Written strict (write t).toList t)
    (text : List Char) :
    Forest strict
      ((String.join ((items.map write).intersperse separator)).toList ++ ')' :: text)
      items (')' :: text) := by
  induction items with
  | nil => exact .nil
  | cons t ts ih =>
      obtain ⟨first, others⟩ := List.forall_mem_cons.mp written
      have more := ih others
      cases ts with
      | nil =>
          have alone : Forest strict _ [t] (')' :: text) := first.read rfl .nil
          simpa using alone
      | cons u us =>
          obtain ⟨c, blanks, same⟩ := List.exists_cons_of_ne_nil some
          have spaced := more.blanks blank
          rw [same] at blank spaced
          -- The word before the separator ends at the first of its blanks.
          have delimiter := Reader.isDelimiter_of_isBlank (blank c List.mem_cons_self)
          simpa [same] using first.read delimiter spaced

theorem Written.list (blank : ∀ c ∈ separator.toList, IsBlank c) (some : separator.toList ≠ [])
    (written : ∀ t ∈ items, Written strict (write t).toList t) :
    Written strict
      ("(" ++ String.join ((items.map write).intersperse separator) ++ ")").toList
      (.list items) := by
  constructor
  intro c text trees rest _ behind
  have inside := Forest.interspersed blank some written (c :: text)
  simpa using Forest.list inside behind

theorem Written.oneLine {t : Tree} (readable : t.Readable) : Written strict t.oneLine.toList t := by
  induction t using Tree.rec_strong with
  | integer | string | symbol =>
      simp only [Tree.oneLine]
      exact .atom readable (by simp)
  | list items ih =>
      rw [Tree.oneLine, Tree.oneLineAll_eq_map]
      have items_readable := (Tree.allReadable_iff items).mp readable
      apply Written.list
      · simp [IsBlank]
      · simp
      · intro t item
        exact ih t item (items_readable t item)

theorem isBlank_lineBreak (indent : Nat) :
    ∀ c ∈ ("\n" ++ String.ofList (List.replicate indent ' ')).toList, IsBlank c := by
  intro c member
  simp only [String.toList_append, String.toList_ofList, List.mem_append,
    List.mem_replicate] at member
  rcases member with newline | ⟨-, rfl⟩
  · exact .inr (.inr (by simpa using newline))
  · exact .inl rfl

theorem Written.stacked {t : Tree} (readable : t.Readable) (indent : Nat) :
    Written strict (t.stacked indent).toList t := by
  induction t using Tree.rec_strong generalizing indent with
  | integer | string | symbol =>
      simp only [Tree.stacked]
      exact .atom readable (by simp)
  | list items ih =>
      rw [Tree.stacked, Tree.stackedAll_eq_map]
      have items_readable := (Tree.allReadable_iff items).mp readable
      split
      · apply Written.list
        · exact isBlank_lineBreak _
        · simp
        · intro t item
          exact ih t item (items_readable t item) (indent + 1)
      · exact .oneLine readable

theorem Written.printed {t : Tree} (readable : t.Readable) {printed : String}
    (form : printed = t.render ∨ printed = t.pretty) : Written strict printed.toList t := by
  rcases form with rfl | rfl
  · rw [Tree.render_eq_oneLine]
    exact .oneLine readable
  · rw [Tree.pretty_eq_stacked]
    exact .stacked readable 0

end Grammar

/-! ## Only readable trees are derived -/

theorem Grammar.Bare.readable {word : List Char} {atom : Tree} (h : Bare word atom)
    (nonempty : word ≠ []) (letters : ∀ c ∈ word, Word.isDelimiter c = false) :
    atom.Readable := by
  cases h with
  | integer value => trivial
  | symbol value => simpa [Tree.Readable, Tree.IsName] using ⟨nonempty, letters, value⟩

theorem Grammar.Forest.allReadable {strict : Bool} {text rest : List Char} {trees : List Tree}
    (h : Forest strict text trees rest) : Tree.AllReadable trees := by
  induction h with
  | nil | lastComment => trivial
  | blank _ _ ih | comment _ _ ih => exact ih
  | list _ _ inside behind => exact ⟨inside, behind⟩
  | string _ _ ih => exact ⟨trivial, ih⟩
  | word nonempty letters value _ _ ih => exact ⟨value.readable nonempty letters, ih⟩

/-- What a tree is written as and a newline behind it are read as this tree alone, if and
    only if its symbols have readable names. -/
theorem Reader.reads_printed_iff {settings : Settings} {t : Tree} {printed : String}
    (form : printed = t.render ∨ printed = t.pretty)
    (room : ∀ limit, settings.maxDepth = some limit → t.nesting ≤ limit) :
    Reads settings (printed ++ "\n").toList (.list [t]) ↔ t.Readable := by
  rw [reads_iff]
  constructor
  · rintro ⟨trees, same, forest, -⟩
    obtain rfl := Tree.list.inj same
    exact forest.allReadable.1
  · intro readable
    refine ⟨[t], rfl, ?_, by simpa using room⟩
    have newline : Forest settings.strictEscapes ['\n'] [] [] := .blank (.inr (.inr rfl)) .nil
    have written : Written settings.strictEscapes printed.toList t := .printed readable form
    simpa using written.read rfl newline

theorem Reader.reads_render_iff {settings : Settings} {t : Tree}
    (room : ∀ limit, settings.maxDepth = some limit → t.nesting ≤ limit) :
    Reads settings (t.render ++ "\n").toList (.list [t]) ↔ t.Readable :=
  reads_printed_iff (.inl rfl) room

theorem parseText_eq_ok_iff {text : String} {fileName : Option String} {v : Tree} :
    parseText text fileName = .ok v ↔ Reader.Reads .lenient text.toList v :=
  Cursor.parse_eq_ok_iff

/-- Printing a tree and reading the result back gives this tree alone, if and only
    if each of its symbols has a name that is read as a symbol. -/
theorem parseText_render_eq_ok_iff_readable (t : Tree) (fileName : Option String) :
    parseText (t.render ++ "\n") fileName = .ok (.list [t]) ↔ t.Readable := by
  rw [parseText_eq_ok_iff]
  exact Reader.reads_render_iff (by simp [Settings.lenient])

end Sexpr
