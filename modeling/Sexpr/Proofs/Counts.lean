import Mathlib.Algebra.GroupWithZero.Nat
import Sexpr.Proofs.Canonical
import Sexpr.Proofs.Regions

/-! # The counts of a file

The command counts the nodes of the tree that a file is read as. The lists among them are
the parentheses that open in the text, and the atoms are its string literals and its bare
words, as far as they stand outside comments and string literals.
-/

namespace Sexpr

namespace Tree

/-! ## The nodes of a tree -/

@[simp] theorem listCount_list (items : List Tree) :
    (Tree.list items).listCount = listCountAll items + 1 := rfl

@[simp] theorem listCount_string (text : String) : (Tree.string text).listCount = 0 := rfl

@[simp] theorem listCountAll_nil : listCountAll [] = 0 := rfl

@[simp] theorem listCountAll_cons (t : Tree) (ts : List Tree) :
    listCountAll (t :: ts) = t.listCount + listCountAll ts := rfl

theorem listCountAll_eq_sum (ts : List Tree) : listCountAll ts = (ts.map listCount).sum := by
  induction ts with
  | nil => rfl
  | cons t ts ih => simp [ih]

@[simp] theorem listCountAll_append (ts us : List Tree) :
    listCountAll (ts ++ us) = listCountAll ts + listCountAll us := by
  simp [listCountAll_eq_sum]

@[simp] theorem listCountAll_reverse (ts : List Tree) :
    listCountAll ts.reverse = listCountAll ts := by
  simp [listCountAll_eq_sum]

@[simp] theorem atomCount_list (items : List Tree) :
    (Tree.list items).atomCount = atomCountAll items := rfl

@[simp] theorem atomCount_string (text : String) : (Tree.string text).atomCount = 1 := rfl

@[simp] theorem atomCountAll_nil : atomCountAll [] = 0 := rfl

@[simp] theorem atomCountAll_cons (t : Tree) (ts : List Tree) :
    atomCountAll (t :: ts) = t.atomCount + atomCountAll ts := rfl

theorem atomCountAll_eq_sum (ts : List Tree) : atomCountAll ts = (ts.map atomCount).sum := by
  induction ts with
  | nil => rfl
  | cons t ts ih => simp [ih]

@[simp] theorem atomCountAll_append (ts us : List Tree) :
    atomCountAll (ts ++ us) = atomCountAll ts + atomCountAll us := by
  simp [atomCountAll_eq_sum]

@[simp] theorem atomCountAll_reverse (ts : List Tree) :
    atomCountAll ts.reverse = atomCountAll ts := by
  simp [atomCountAll_eq_sum]

theorem listCount_of_atom {t : Tree} (atom : ∀ items, t ≠ .list items) : t.listCount = 0 := by
  cases t with
  | list items => exact absurd rfl (atom items)
  | integer | string | symbol => rfl

theorem atomCount_of_atom {t : Tree} (atom : ∀ items, t ≠ .list items) : t.atomCount = 1 := by
  cases t with
  | list items => exact absurd rfl (atom items)
  | integer | string | symbol => rfl

theorem Census.add_eq (todo : List Tree) (c : Census) :
    Census.add todo c = ⟨c.lists + listCountAll todo, c.atoms + atomCountAll todo⟩ := by
  fun_induction Census.add todo c with
  | case1 => rfl
  | case2 items todo c ih =>
      rw [ih, Census.mk.injEq]
      simp only [listCountAll_append, listCountAll_cons, listCount_list, atomCountAll_append,
        atomCountAll_cons, atomCount_list, and_true]
      omega
  | case3 t todo c atom ih =>
      rw [ih, Census.mk.injEq]
      simp only [listCountAll_cons, atomCountAll_cons, listCount_of_atom atom,
        atomCount_of_atom atom]
      omega

theorem census_eq (t : Tree) : t.census = ⟨t.listCount, t.atomCount⟩ := by
  simp [census, Census.add_eq]

theorem listCountAll_add_atomCountAll {ts : List Tree}
    (each : ∀ t ∈ ts, t.listCount + t.atomCount = t.size) :
    listCountAll ts + atomCountAll ts = sizeAll ts := by
  induction ts with
  | nil => rfl
  | cons t ts ih =>
      obtain ⟨first, others⟩ := List.forall_mem_cons.mp each
      have behind := ih others
      simp only [listCountAll_cons, atomCountAll_cons, sizeAll_cons]
      omega

theorem listCount_add_atomCount (t : Tree) : t.listCount + t.atomCount = t.size := by
  induction t using Tree.rec_strong with
  | integer | string | symbol => rfl
  | list items ih =>
      have inside := listCountAll_add_atomCountAll ih
      simp only [listCount_list, atomCount_list, size_list]
      omega

end Tree

/-! ## The bare words of a text -/

/-- The bare words of a text without comments and string literals: its longest runs of
    characters that are no delimiters. -/
def bareWords (text : List Char) : List (List Char) :=
  (text.splitOnP Word.isDelimiter).filter (!·.isEmpty)

@[simp] theorem bareWords_nil : bareWords [] = [] := by
  simp [bareWords]

theorem bareWords_append_cons (before behind : List Char) {c : Char}
    (delimiter : Word.isDelimiter c = true) :
    bareWords (before ++ c :: behind) = bareWords before ++ bareWords behind := by
  rw [bareWords, List.splitOnP_append_cons before behind delimiter, List.filter_append]
  rfl

theorem bareWords_concat (text : List Char) {c : Char} (delimiter : Word.isDelimiter c = true) :
    bareWords (text ++ [c]) = bareWords text := by
  rw [bareWords_append_cons text [] delimiter, bareWords_nil, List.append_nil]

theorem bareWords_append {before : List Char}
    (last : ∀ c ∈ before.getLast?, Word.isDelimiter c = true) (behind : List Char) :
    bareWords (before ++ behind) = bareWords before ++ bareWords behind := by
  rcases List.eq_nil_or_concat' before with rfl | ⟨before, c, rfl⟩
  · simp
  · have delimiter : Word.isDelimiter c = true := by simpa using last
    rw [List.append_assoc, List.singleton_append, bareWords_append_cons _ _ delimiter,
      bareWords_concat _ delimiter]

theorem bareWords_of_letters {word : List Char} (nonempty : word ≠ [])
    (letters : ∀ c ∈ word, Word.isDelimiter c = false) : bareWords word = [word] := by
  simp [bareWords, List.splitOnP_eq_singleton letters, nonempty]

/-! ## What a reader has counted -/

def Token.literals : Token → Nat
  | .literal _ | .escape _ => 1
  | .word _ | .comment => 0

theorem Grammar.Bare.ne_list {word : List Char} {atom : Tree} (h : Grammar.Bare word atom)
    (items : List Tree) : atom ≠ .list items := by
  cases h <;> simp

namespace Reader

variable {settings : Settings} {r r' : Reader} {c : Char}

/-- All that has been read: the items of the innermost open list, and the lists around it as
    far as they go. -/
def held (r : Reader) : List Tree :=
  r.items ++ r.frames.lists.map .list

theorem WordEnd.listCountAll {letters : List Char} {items items' : List Tree}
    (h : WordEnd letters items items') :
    Tree.listCountAll items' = Tree.listCountAll items := by
  cases h with
  | noWord => rfl
  | word _ value => simp [Tree.listCount_of_atom value.ne_list]

theorem WordEnd.atomCountAll {letters : List Char} {items items' : List Tree}
    (h : WordEnd letters items items') (plain : ∀ c ∈ letters.reverse, Word.isDelimiter c = false) :
    Tree.atomCountAll items' = Tree.atomCountAll items + (bareWords letters.reverse).length := by
  cases h with
  | noWord => simp
  | word nonempty value =>
      rw [bareWords_of_letters (by simpa using nonempty) plain, Tree.atomCountAll_cons,
        Tree.atomCount_of_atom value.ne_list, List.length_singleton, Nat.add_comm]

theorem Step.listCountAll_held (h : Step settings r c r') :
    Tree.listCountAll r'.held =
      Tree.listCountAll r.held + [r.token.region.shown c].count '(' := by
  cases h with
  | letter plain =>
      have other : c ≠ '(' := ne_of_isDelimiter plain rfl
      simp [held, Token.region, Region.shown, other]
  | blank blank ended =>
      have other : c ≠ '(' := by rcases blank with rfl | rfl | rfl <;> decide
      simp [held, Token.region, Region.shown, ended.listCountAll, other]
  | semicolon ended | quote ended =>
      simp [held, Token.region, Region.shown, ended.listCountAll]
  | opened ended | closed ended =>
      simp [held, Token.region, Region.shown, ended.listCountAll]
      omega
  | commented | commentEnd | plain | backslash | escaped | kept | literalEnd =>
      simp [held, Token.region, Region.shown]

/-- The string literals and the words of a text are those that a reader has made atoms of,
    apart from the word in progress. A literal in progress is among them. -/
def Tallied (seen : List Char) (r : Reader) : Prop :=
  ∃ before, seen = before ++ r.token.letters ∧
    (∀ c ∈ before.getLast?, Word.isDelimiter c = true) ∧
    Tree.atomCountAll r.held + r.token.literals = before.count '"' + (bareWords before).length

theorem tallied_delimiter {before word : List Char} {d : Char}
    (last : ∀ c ∈ before.getLast?, Word.isDelimiter c = true)
    (letters : ∀ c ∈ word, Word.isDelimiter c = false) (delimiter : Word.isDelimiter d = true)
    (ended : r.token.letters = [])
    (sum : Tree.atomCountAll r.held + r.token.literals =
      before.count '"' + (bareWords before).length + (bareWords word).length + [d].count '"') :
    Tallied (before ++ word ++ [d]) r := by
  have quotes : word.count '"' = 0 :=
    List.count_eq_zero_of_not_mem (not_mem_of_isDelimiter letters rfl)
  refine ⟨before ++ word ++ [d], by simp [ended], by simpa using delimiter, ?_⟩
  rw [sum, bareWords_concat _ delimiter, bareWords_append last]
  simp only [List.count_append, List.length_append, quotes]
  omega

theorem Step.tallied {seen : List Char} (h : Step settings r c r')
    (letters : ∀ c ∈ r.token.letters, Word.isDelimiter c = false) (before : Tallied seen r) :
    Tallied (seen ++ [r.token.region.shown c]) r' := by
  obtain ⟨before, rfl, last, sum⟩ := before
  -- Every character but a letter is seen as a delimiter, so that the word before it has ended.
  cases h with
  | letter plain =>
      exact ⟨before, by simp [Token.letters, Token.region, Region.shown], last, sum⟩
  | blank blank ended =>
      have other : c ≠ '"' := by rcases blank with rfl | rfl | rfl <;> decide
      apply tallied_delimiter last letters (isDelimiter_of_isBlank blank) rfl
      simp [held, Token.literals, Token.letters, ended.atomCountAll letters, other] at sum ⊢
      omega
  | semicolon ended | quote ended | opened ended | closed ended =>
      apply tallied_delimiter last letters rfl rfl
      simp [held, Token.literals, Token.letters, Token.region, Region.shown,
        ended.atomCountAll letters] at sum ⊢
      omega
  | commented | commentEnd | plain | backslash | escaped | kept | literalEnd =>
      apply tallied_delimiter last letters rfl rfl
      simp [held, Token.literals, Token.letters, Token.region, Region.shown] at sum ⊢
      omega

theorem listCountAll_held_of_run {text : List Char} (run : start.run settings text = .ok r) :
    Tree.listCountAll r.held = (Region.plain.outside text).count '(' := by
  refine run_induction run rfl ?_
  intro read r c r' run step before
  rw [outside_concat_of_run run, List.count_append, ← before]
  exact step.listCountAll_held

theorem tallied_of_run {text : List Char} (run : start.run settings text = .ok r) :
    Tallied (Region.plain.outside text) r := by
  refine run_induction run ⟨[], rfl, by simp, rfl⟩ ?_
  intro read r c r' run step before
  rw [outside_concat_of_run run]
  exact step.tallied (isDelimiter_letters run) before

/-- A text that is read has as many lists as it has opening parentheses outside comments and
    string literals, and as many atoms as it has literals and words there. -/
theorem Reads.counts {text : List Char} {trees : List Tree}
    (reads : Reads settings text (.list trees)) :
    let seen := Region.plain.outside text
    Tree.listCountAll trees = seen.count '(' ∧
      Tree.atomCountAll trees = seen.count '"' + (bareWords seen).length := by
  intro seen
  obtain ⟨r, run, finished⟩ := reads
  obtain ⟨between, closed, same⟩ := finish_eq_ok_iff.mp finished
  have held : r.held = trees.reverse := by
    rw [Reader.held, closed, Tree.list.inj same]
    simp
  have nothing : r.token.letters = [] ∧ r.token.literals = 0 := by
    rcases between with word | comment
    · simp [word, Token.letters, Token.literals]
    · simp [comment, Token.letters, Token.literals]
  have lists := listCountAll_held_of_run run
  obtain ⟨before, whole, -, atoms⟩ := tallied_of_run run
  rw [held, Tree.listCountAll_reverse] at lists
  rw [nothing.1, List.append_nil] at whole
  rw [held, Tree.atomCountAll_reverse, nothing.2, ← whole] at atoms
  exact ⟨lists, atoms⟩

end Reader

namespace CommandLine

theorem Report.counts_list (trees : List Tree) :
    Report.counts (.list trees) =
      ";; count_lists = " ++ toString (Tree.listCountAll trees) ++ ", count_atoms = " ++
        toString (Tree.atomCountAll trees) ++ "\n" := by
  unfold Report.counts
  rw [Tree.census_eq, Tree.listCount_list, Tree.atomCount_list, Nat.add_sub_cancel]

/-- The command counts each node of a tree once, as a list or as an atom. Of a file that is read
    it says how many opening parentheses stand outside comments and string literals, and how
    many literals and words there are. The list that is the file itself has been counted too,
    so that there is always one to leave out. -/
theorem run_counts :
    (∀ t : Tree, t.census = ⟨t.listCount, t.atomCount⟩ ∧ t.listCount + t.atomCount = t.size) ∧
    ∀ {openPath arguments o path source t}, ofArguments arguments = some (o, path) →
      openPath path = .ok source → parseWith o.settings (.bytes source) (some path) = .ok t →
      ∃ text trees, source.readAll = .ok text ∧ t = .list trees ∧
        let seen := Region.plain.outside text.toList
        t.census.lists = seen.count '(' + 1 ∧
          run openPath arguments = ⟨0, Report.items o trees ++
            (";; count_lists = " ++ toString (seen.count '(') ++ ", count_atoms = " ++
              toString (seen.count '"' + (bareWords seen).length) ++ "\n"), ""⟩ := by
  refine ⟨fun t => ⟨t.census_eq, t.listCount_add_atomCount⟩, ?_⟩
  intro openPath arguments o path source t asked opened read
  obtain ⟨trees, rfl, -, -⟩ := parseWith_bytes_eq_ok read
  obtain ⟨text, content, parsed⟩ := exists_text_of_parseWith_bytes read
  obtain ⟨lists, atoms⟩ := (parseWith_text_eq_ok_iff.mp parsed).counts
  refine ⟨text, trees, content, rfl, ?_, ?_⟩
  · rw [Tree.census_eq, Tree.listCount_list, lists]
  · rw [run_of_opened asked opened, read, ← lists, ← atoms, ← Report.counts_list]
    rfl

theorem run_counts_hidden :
    let openPath (_ : String) : Except String ByteSource :=
      .ok (.ofBytes (Utf8.encode "(a\"(\\\"(\" ; (b\n () 0x1f)".toList))
    let t : Tree := .list [.list [.symbol "a", .string "(\"(", .list [], .integer 31]]
    t.census = ⟨3, 3⟩ ∧ t.listCount + t.atomCount = t.size ∧
      run openPath ["f"] = ⟨0, ";; count_lists = 2, count_atoms = 3\n", ""⟩ := by
  intro openPath t
  have asked : ofArguments ["f"] = some (⟨false, false, false, none⟩, "f") := by decide
  obtain ⟨source, opened, read, content⟩ : ∃ source, openPath "f" = .ok source ∧
      parseWith .lenient (.bytes source) (some "f") = .ok t ∧
      source.readAll = .ok "(a\"(\\\"(\" ; (b\n () 0x1f)" := ⟨_, rfl, by rfl, by rfl⟩
  have seen : Region.plain.outside "(a\"(\\\"(\" ; (b\n () 0x1f)".toList =
      "(a\"      ;     () 0x1f)".toList := by rfl
  have words : bareWords "(a\"      ;     () 0x1f)".toList = ["a".toList, "0x1f".toList] := by
    rfl
  obtain ⟨census, size⟩ := run_counts.1 t
  obtain ⟨text, trees, delivered, -, -, report⟩ := run_counts.2 asked opened read
  obtain rfl := Except.ok.inj (content.symm.trans delivered)
  rw [seen, words] at report
  exact ⟨census, size, report⟩

end CommandLine

end Sexpr
