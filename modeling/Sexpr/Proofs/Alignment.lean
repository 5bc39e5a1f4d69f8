import Sexpr.Proofs.Columns
import Sexpr.Proofs.RoundTrip
import Sexpr.Proofs.Tokens

/-! # Where the items of a stacked list stand

The stacked form of a tree is its one-line form with some of the spaces made into line breaks.
The indentation behind a break is a number that the printer hands down from list to list, and
never looks up in the text. It is still the column of what stands there: one behind the
parenthesis of the list, and as many columns as there are lists around.
-/

namespace Sexpr

/-! ## Characters of the written forms -/

theorem Literal.newline_not_mem_encode (text : List Char) : '\n' ∉ encode text := by
  rw [encode, List.mem_flatMap]
  rintro ⟨c, -, newline⟩
  revert newline
  unfold encodeChar
  split <;> simp_all [eq_comm]

theorem Word.exists_eq_cons_of_plain {word : List Char} (nonempty : word ≠ [])
    (letters : ∀ c ∈ word, isDelimiter c = false) : ∃ c rest, word = c :: rest ∧ c ≠ ' ' := by
  obtain ⟨c, rest, rfl⟩ := List.exists_cons_of_ne_nil nonempty
  refine ⟨c, rest, rfl, ?_⟩
  rintro rfl
  exact absurd (letters ' ' List.mem_cons_self) (by decide)

namespace Tree

/-- All symbols of a tree have names that are not empty and have no delimiter in them. -/
inductive BareNames : Tree → Prop where
  | integer (value : Int) : BareNames (.integer value)
  | string (text : String) : BareNames (.string text)
  | symbol {name : String} (nonempty : name.toList ≠ [])
      (letters : ∀ c ∈ name.toList, Word.isDelimiter c = false) : BareNames (.symbol name)
  | list {items : List Tree} (bare : ∀ t ∈ items, BareNames t) : BareNames (.list items)

variable {t : Tree} {ts : List Tree}

def IsFlat (t : Tree) : Prop :=
  ∀ items, t = .list items → hasListItem items = false

@[elab_as_elim]
theorem rec_stacked {motive : Tree → Prop} (flat : ∀ t, t.IsFlat → motive t)
    (nested : ∀ t ts, hasListItem (t :: ts) = true → (∀ u ∈ t :: ts, motive u) →
      motive (.list (t :: ts))) (t : Tree) : motive t := by
  induction t using Tree.rec_strong with
  | integer value => exact flat _ (by simp [IsFlat])
  | string text => exact flat _ (by simp [IsFlat])
  | symbol name => exact flat _ (by simp [IsFlat])
  | list items ih =>
      cases found : hasListItem items with
      | false => exact flat _ (by simpa [IsFlat] using found)
      | true =>
          cases items with
          | nil => simp [hasListItem] at found
          | cons t ts => exact nested t ts found ih

theorem toList_interspersed (write : Tree → String) (separator : String) (t : Tree)
    (ts : List Tree) :
    (String.join (((t :: ts).map write).intersperse separator)).toList =
      (write t).toList ++ ts.flatMap fun u => separator.toList ++ (write u).toList := by
  induction ts generalizing t with
  | nil => simp
  | cons u us ih =>
      rw [List.map_cons, List.map_cons, List.intersperse_cons_cons, String.join_cons,
        String.join_cons, String.toList_append, String.toList_append, ← List.map_cons, ih]
      simp

theorem toList_oneLine_list (t : Tree) (ts : List Tree) :
    (oneLine (.list (t :: ts))).toList =
      '(' :: t.oneLine.toList ++ (ts.flatMap fun u => ' ' :: u.oneLine.toList) ++ [')'] := by
  have inside := toList_interspersed oneLine " " t ts
  rw [oneLine, oneLineAll_eq_map, String.toList_append, String.toList_append, inside]
  rfl

theorem toList_stacked_list (nested : hasListItem (t :: ts) = true) (indent : Nat) :
    ((Tree.list (t :: ts)).stacked indent).toList =
      '(' :: (t.stacked (indent + 1)).toList ++
        (ts.flatMap fun u =>
          '\n' :: (List.replicate (indent + 1) ' ' ++ (u.stacked (indent + 1)).toList))
        ++ [')'] := by
  have inside := toList_interspersed (stacked (indent + 1))
    ("\n" ++ String.ofList (List.replicate (indent + 1) ' ')) t ts
  rw [stacked, if_pos nested, stackedAll_eq_map, String.toList_append, String.toList_append, inside]
  simp

theorem newline_not_mem_oneLine (names : t.BareNames) : '\n' ∉ t.oneLine.toList := by
  induction t using Tree.rec_strong with
  | integer value =>
      simp only [oneLine]
      exact Reader.newline_not_mem_of_plain (Word.isDelimiter_toString value)
  | string text =>
      simp [oneLine, atomText, Literal.toList_render, Literal.newline_not_mem_encode]
  | symbol name =>
      cases names with
      | symbol nonempty letters =>
          simp only [oneLine]
          exact Reader.newline_not_mem_of_plain letters
  | list items ih =>
      cases names with
      | list bare =>
          have each : ∀ t ∈ items, '\n' ∉ t.oneLine.toList := fun t item => ih t item (bare t item)
          cases items with
          | nil => decide
          | cons t ts =>
              obtain ⟨first, others⟩ := List.forall_mem_cons.mp each
              simpa [toList_oneLine_list, first] using others

theorem exists_stacked_eq_cons (names : t.BareNames) (indent : Nat) :
    ∃ c rest, (t.stacked indent).toList = c :: rest ∧ c ≠ ' ' := by
  cases names with
  | integer value =>
      simp only [stacked]
      exact Word.exists_eq_cons_of_plain (Word.toString_ne_nil value)
        (Word.isDelimiter_toString value)
  | symbol nonempty letters =>
      simp only [stacked]
      exact Word.exists_eq_cons_of_plain nonempty letters
  | string text => exact ⟨'"', _, Literal.toList_render text, by decide⟩
  | @list items =>
      have opened : ∃ rest, ((Tree.list items).stacked indent).toList = '(' :: rest := by
        rw [stacked]
        split <;> simp [oneLine]
      obtain ⟨rest, written⟩ := opened
      exact ⟨'(', rest, written, by decide⟩

end Tree

/-! ## Taking the line breaks out -/

/-- A text with one space for every newline and the spaces behind it. -/
def unbroken : List Char → List Char
  | [] => []
  | c :: text =>
      if c = '\n' then ' ' :: unbroken (text.dropWhile (· = ' ')) else c :: unbroken text
termination_by text => text.length
decreasing_by
  · exact Nat.lt_succ_of_le (List.length_dropWhile_le _ _)
  · exact Nat.lt_succ_self _

theorem unbroken_append {line : List Char} (single : '\n' ∉ line) (rest : List Char) :
    unbroken (line ++ rest) = line ++ unbroken rest := by
  induction line with
  | nil => rfl
  | cons c line ih =>
      obtain ⟨other, single⟩ : '\n' ≠ c ∧ '\n' ∉ line := by simpa using single
      rw [List.cons_append, unbroken, if_neg other.symm, ih single, List.cons_append]

theorem unbroken_lineBreak {c : Char} (visible : c ≠ ' ') (indent : Nat) (rest : List Char) :
    unbroken ('\n' :: (List.replicate indent ' ' ++ c :: rest)) = ' ' :: unbroken (c :: rest) := by
  have skipped : (List.replicate indent ' ' ++ c :: rest).dropWhile (· = ' ') = c :: rest := by
    rw [List.dropWhile_append_of_pos (by simp), List.dropWhile_cons_of_neg (by simpa using visible)]
  rw [unbroken, if_pos rfl, skipped]

namespace Tree

variable {t : Tree} {items : List Tree}

theorem unbroken_below {indent : Nat} (names : ∀ t ∈ items, t.BareNames)
    (each : ∀ t ∈ items, ∀ rest,
      unbroken ((t.stacked indent).toList ++ rest) = t.oneLine.toList ++ unbroken rest)
    (rest : List Char) :
    unbroken ((items.flatMap fun t =>
        '\n' :: (List.replicate indent ' ' ++ (t.stacked indent).toList)) ++ rest) =
      (items.flatMap fun t => ' ' :: t.oneLine.toList) ++ unbroken rest := by
  induction items with
  | nil => rfl
  | cons t ts ih =>
      obtain ⟨bare, names⟩ := List.forall_mem_cons.mp names
      obtain ⟨item, each⟩ := List.forall_mem_cons.mp each
      -- What follows the indentation is the item, and none of its own characters is dropped.
      obtain ⟨c, behind, begins, visible⟩ := exists_stacked_eq_cons bare indent
      have broken (rest : List Char) :
          unbroken ('\n' :: (List.replicate indent ' ' ++ ((t.stacked indent).toList ++ rest))) =
            ' ' :: unbroken ((t.stacked indent).toList ++ rest) := by
        rw [begins]
        exact unbroken_lineBreak visible indent (behind ++ rest)
      simp only [List.flatMap_cons, List.append_assoc, broken, item, ih names each,
        List.cons_append]

/-- The stacked form has no other characters than the one-line form, line breaks apart. -/
theorem unbroken_stacked (names : t.BareNames) (indent : Nat) (rest : List Char) :
    unbroken ((t.stacked indent).toList ++ rest) = t.oneLine.toList ++ unbroken rest := by
  induction t using Tree.rec_stacked generalizing indent rest with
  | flat t flat =>
      rw [stacked_eq_oneLine flat]
      exact unbroken_append (newline_not_mem_oneLine names) rest
  | nested t ts nested ih =>
      cases names with
      | list bare =>
          have each : ∀ u ∈ t :: ts, ∀ rest,
              unbroken ((u.stacked (indent + 1)).toList ++ rest) =
                u.oneLine.toList ++ unbroken rest :=
            fun u item => ih u item (bare u item) (indent + 1)
          obtain ⟨first, others⟩ := List.forall_mem_cons.mp each
          have below := unbroken_below (List.forall_mem_cons.mp bare).2 others
          have opening (rest : List Char) : unbroken ('(' :: rest) = '(' :: unbroken rest :=
            unbroken_append (by decide : '\n' ∉ ['(']) rest
          have closing : unbroken (')' :: rest) = ')' :: unbroken rest :=
            unbroken_append (by decide : '\n' ∉ [')']) rest
          rw [toList_stacked_list nested, toList_oneLine_list]
          simp only [List.cons_append, List.append_assoc, List.nil_append, opening, first, below,
            closing]

end Tree

/-! ## Columns of items -/

/-- The column behind a text: how many characters it has behind its last newline. -/
def column (text : List Char) : Nat :=
  (SourceLines.openLine text).length

theorem column_eq_col (text : List Char) : column text = (Pos.start.afterAll text).col := by
  rw [SourceLines.afterAll_start]
  rfl

theorem column_paren (text : List Char) : column (text ++ ['(']) = column text + 1 := by
  simp [column_eq_col, Pos.afterAll_append, Pos.after]

theorem column_lineBreak (before : List Char) (indent : Nat) :
    column (before ++ '\n' :: List.replicate indent ' ') = indent := by
  have spaces : '\n' ∉ List.replicate indent ' ' := by simp
  rw [column_eq_col, Pos.afterAll_append, Pos.afterAll_cons, Pos.after,
    if_pos rfl, Pos.afterAll_of_not_mem spaces, Nat.zero_add, List.length_replicate]

namespace Tree

mutual

/-- Behind the text `before` and in `opened` lists, a tree is laid out as this text. -/
inductive LaidOut : Nat → List Char → Tree → List Char → Prop where
  /-- Anything but a list with a list among its items is written on one line. -/
  | flat {opened before t} (flat : t.IsFlat) (line : '\n' ∉ t.render.toList) :
      LaidOut opened before t t.render.toList
  /-- The first item follows the parenthesis, and the others stand below it. -/
  | stacked {opened before t ts first others} (nested : hasListItem (t :: ts) = true)
      (item : LaidOutItem (column before + 1) (opened + 1) (before ++ ['(']) t first)
      (below : LaidOutBelow (column before + 1) (opened + 1) (before ++ '(' :: first) ts others) :
      LaidOut opened before (.list (t :: ts)) ('(' :: first ++ others ++ [')'])

/-- An item stands in the column `indent`, which is the number of lists around it. -/
inductive LaidOutItem : Nat → Nat → List Char → Tree → List Char → Prop where
  | intro {indent opened before t text} (aligned : column before = indent)
      (counted : indent = opened) (layout : LaidOut opened before t text) :
      LaidOutItem indent opened before t text

inductive LaidOutBelow : Nat → Nat → List Char → List Tree → List Char → Prop where
  | nil {indent opened before} : LaidOutBelow indent opened before [] []
  | cons {indent opened before spaces t ts text others}
      (item : LaidOutItem indent opened (before ++ '\n' :: List.replicate spaces ' ') t text)
      (below : LaidOutBelow indent opened (before ++ '\n' :: List.replicate spaces ' ' ++ text)
        ts others) :
      LaidOutBelow indent opened before (t :: ts)
        ('\n' :: List.replicate spaces ' ' ++ text ++ others)

end

theorem laidOutBelow_stacked {items : List Tree} {indent : Nat}
    (each : ∀ t ∈ items, ∀ before, column before = indent →
      LaidOut indent before t (t.stacked indent).toList) (before : List Char) :
    LaidOutBelow indent indent before items
      (items.flatMap fun t => '\n' :: (List.replicate indent ' ' ++ (t.stacked indent).toList)) := by
  induction items generalizing before with
  | nil => exact .nil
  | cons t ts ih =>
      obtain ⟨item, each⟩ := List.forall_mem_cons.mp each
      have aligned := column_lineBreak before indent
      exact .cons (.intro aligned rfl (item _ aligned)) (ih each _)

/-- The number that is handed down is the column at which the tree begins, and the number of
    lists around it. -/
theorem laidOut_stacked {t : Tree} (names : t.BareNames) {indent : Nat} {before : List Char}
    (aligned : column before = indent) : LaidOut indent before t (t.stacked indent).toList := by
  induction t using Tree.rec_stacked generalizing indent before with
  | flat t flat =>
      have line := newline_not_mem_oneLine names
      rw [← render_eq_oneLine] at line
      rw [stacked_eq_oneLine flat, ← render_eq_oneLine]
      exact .flat flat line
  | nested t ts nested ih =>
      cases names with
      | list bare =>
          have each : ∀ u ∈ t :: ts, ∀ before, column before = indent + 1 →
              LaidOut (indent + 1) before u (u.stacked (indent + 1)).toList :=
            fun u item before aligned => ih u item (bare u item) aligned
          obtain ⟨first, others⟩ := List.forall_mem_cons.mp each
          have inside : column (before ++ ['(']) = indent + 1 := by
            rw [column_paren, aligned]
          have below := laidOutBelow_stacked others
          rw [toList_stacked_list nested]
          subst aligned
          exact .stacked nested (.intro inside rfl (first _ inside)) (below _)

/-- The stacked form is the one-line form with line breaks for some of its spaces. Lists of
    atoms are left on one line. In each other list every item but the first has a line break
    in front of it, and all of them stand one column behind the parenthesis of their list,
    in the column that is the number of lists around them. -/
theorem pretty_laidOut {t : Tree} (names : t.BareNames) :
    unbroken t.pretty.toList = t.render.toList ∧ LaidOut 0 [] t t.pretty.toList := by
  rw [pretty_eq_stacked, render_eq_oneLine]
  have same := unbroken_stacked names 0 []
  rw [List.append_nil, unbroken, List.append_nil] at same
  exact ⟨same, laidOut_stacked names rfl⟩

theorem pretty_laidOut_list_first :
    (Tree.list [.list [.symbol "a", .list []], .string "b\nc"]).BareNames ∧
    unbroken "((a\n  ())\n \"b\\nc\")".toList = "((a ()) \"b\\nc\")".toList ∧
    LaidOut 0 [] (.list [.list [.symbol "a", .list []], .string "b\nc"])
      "((a\n  ())\n \"b\\nc\")".toList := by
  have names : (Tree.list [.list [.symbol "a", .list []], .string "b\nc"]).BareNames := by
    have symbol : (Tree.symbol "a").BareNames := .symbol (by simp) (by simp [Word.isDelimiter])
    have first : (Tree.list [.symbol "a", .list []]).BareNames :=
      .list (by simpa using ⟨symbol, .list (by simp)⟩)
    exact .list (by simpa using ⟨first, .string _⟩)
  have stacked : (Tree.list [.list [.symbol "a", .list []], .string "b\nc"]).pretty =
      "((a\n  ())\n \"b\\nc\")" := by
    rw [pretty_eq_stacked]
    rfl
  have oneLine : (Tree.list [.list [.symbol "a", .list []], .string "b\nc"]).render =
      "((a ()) \"b\\nc\")" := by
    rw [render_eq_oneLine]
    rfl
  have laidOut := pretty_laidOut names
  rw [stacked, oneLine] at laidOut
  exact ⟨names, laidOut⟩

end Tree

end Sexpr
