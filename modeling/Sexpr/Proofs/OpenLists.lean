import Sexpr.Proofs.Concatenation

/-! # A text inside open lists

A reader that stands between items takes whole lines that can be read as it does at the
start. Their trees are added to the innermost open list, and the lists around it wait below
those of the lines from the first character to the last.
-/

namespace Sexpr

namespace Reader

theorem inside_of_between {r : Reader} (between : r.token = .word []) :
    Inside r.items r.frames.lists start r := by
  obtain ⟨token, frames, items⟩ := r
  dsimp only at between
  subst between
  exact inside_start frames items

/-- Without a limit, whole lines that can be read are taken between any items, inside any open
    lists. Afterwards the reader stands between items again: the trees of the lines are the
    newest items of the innermost list, and the lists around it are the same. They have
    been there all the time, below the lists that the lines open. -/
theorem run_lines_within {strict : Bool} {text : String} {trees : List Tree} {name : Option String}
    (last : text.toList.getLast? = some '\n')
    (parsed : parseWith ⟨none, strict⟩ (.text text) name = .ok (.list trees))
    {r : Reader} (between : r.token = .word []) :
    r.run ⟨none, strict⟩ text.toList = .ok ⟨.word [], r.frames, trees.reverse ++ r.items⟩ ∧
      (∀ read rest, text.toList = read ++ rest →
        ∃ r' inner added, r.run ⟨none, strict⟩ read = .ok r' ∧
          r'.items :: r'.frames.lists = inner ++ (added ++ r.items) :: r.frames.lists) ∧
      Machine.run ⟨none, strict⟩ ⟨.plain, r.frames, r.items, [], []⟩ text.toList =
        .ok ⟨.plain, r.frames, trees.reverse ++ r.items, [], []⟩ := by
  obtain ⟨alone, run, finished⟩ := parseWith_text_eq_ok_iff.mp parsed
  have unlimited : (⟨none, strict⟩ : Settings).maxDepth = none ∨ r.frames.lists = [] := .inl rfl
  have inside := inside_of_between between
  have whole : r.run ⟨none, strict⟩ text.toList =
      .ok ⟨.word [], r.frames, trees.reverse ++ r.items⟩ := by
    have ended : alone.token = .word [] := token_of_lines run finished (.inr last)
    obtain ⟨-, closed, same⟩ := finish_eq_ok_iff.mp finished
    obtain ⟨r', run', inside'⟩ := run_inside unlimited run inside
    rw [run', inside'.eq_of_closed closed, ended, Tree.list.inj same, List.reverse_reverse]
  refine ⟨whole, ?_, ?_⟩
  · intro read rest split
    rw [split, run_append_eq_ok_iff] at run
    obtain ⟨middle, begun, -⟩ := run
    obtain ⟨r', run', inside'⟩ := run_inside unlimited begun inside
    obtain ⟨inner, added, -, lists⟩ := inside'.lists.exists_eq_append
    exact ⟨r', inner, added, run', lists⟩
  · have buffers : r.machine = ⟨.plain, r.frames, r.items, [], []⟩ := by
      simp only [machine, between]
    exact buffers ▸ run_machine_of_ok whole

theorem run_lines_within_nested :
    ∃ r, start.run ⟨none, true⟩ "(x \"y\" (a ".toList = .ok r ∧ r.token = .word [] ∧
      "((b)) ; )\n\"\\n\" 0x1\n".toList.getLast? = some '\n' ∧
      parseWith ⟨none, true⟩ (.text "((b)) ; )\n\"\\n\" 0x1\n") none =
        .ok (.list [.list [.list [.symbol "b"]], .string "\n", .integer 1]) ∧
      r.run ⟨none, true⟩ "((b)) ; )\n\"\\n\" 0x1\n".toList = .ok ⟨.word [], r.frames,
        [.integer 1, .string "\n", .list [.list [.symbol "b"]], .symbol "a"]⟩ := by
  obtain ⟨r, begun, between, items⟩ :
      ∃ r, start.run ⟨none, true⟩ "(x \"y\" (a ".toList = .ok r ∧ r.token = .word [] ∧
        r.items = [.symbol "a"] := ⟨_, rfl, rfl, rfl⟩
  have last : "((b)) ; )\n\"\\n\" 0x1\n".toList.getLast? = some '\n' := by decide
  have parsed : parseWith ⟨none, true⟩ (.text "((b)) ; )\n\"\\n\" 0x1\n") none =
      .ok (.list [.list [.list [.symbol "b"]], .string "\n", .integer 1]) := rfl
  refine ⟨r, begun, between, last, parsed, ?_⟩
  rw [(run_lines_within last parsed between).1, items]
  rfl

end Reader

end Sexpr
