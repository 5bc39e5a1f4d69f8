import Sexpr.Proofs.Restrictions
import Sexpr.Proofs.RoundTrip

/-! # Both written forms are read alike

The two forms of a tree break their lines differently. They open and close the same
lists, so a limit on nesting refuses both or neither of them. They have no escape
without a meaning, so it does not matter how such escapes are treated.
-/

namespace Sexpr

variable {t : Tree} {printed : String}

theorem parseWith_printed_of_room (readable : t.Readable)
    (form : printed = t.render ∨ printed = t.pretty) {settings : Settings}
    (room : ∀ limit, settings.maxDepth = some limit → t.nesting ≤ limit) (name : Option String) :
    parseWith settings (.text (printed ++ "\n")) name = .ok (.list [t]) := by
  rw [parseWith_text_eq_ok_iff]
  exact (Reader.reads_printed_iff form room).mpr readable

/-- Either printed form of a readable tree, with a newline behind it, is read as this tree
    alone, if it nests within the limit. If it does not, this is what either form is
    refused for. Being strict about escapes changes neither outcome. -/
theorem parseWith_printed (readable : t.Readable)
    (form : printed = t.render ∨ printed = t.pretty) (settings : Settings)
    (name : Option String) :
    ((∀ limit, settings.maxDepth = some limit → t.nesting ≤ limit) →
      parseWith settings (.text (printed ++ "\n")) name = .ok (.list [t])) ∧
    (∀ limit, settings.maxDepth = some limit → limit < t.nesting →
      ∃ e, parseWith settings (.text (printed ++ "\n")) name = .error (.syntactic e) ∧
        e.fault = .nestingTooDeep limit) ∧
    ∀ strict, parseWith ⟨settings.maxDepth, strict⟩ (.text (printed ++ "\n")) name =
      parseWith settings (.text (printed ++ "\n")) name := by
  obtain ⟨depth, escapes⟩ := settings
  have unlimited (strict : Bool) :
      parseWith ⟨none, strict⟩ (.text (printed ++ "\n")) name = .ok (.list [t]) :=
    parseWith_printed_of_room readable form (by simp) name
  refine ⟨?_, ?_, ?_⟩
  · intro room
    exact parseWith_printed_of_room readable form room name
  · rintro limit rfl deep
    apply parseWith_limited_of_lt (unlimited escapes)
    simpa using deep
  · intro strict
    have alike := parseWith_keepEscapes (unlimited true) depth
    cases strict <;> cases escapes <;> simp [alike]

theorem parseWith_printed_stacked :
    let t : Tree := .list [.symbol "a", .list [.string "\t\\q", .integer (-16)]]
    t.pretty = "(a\n (\"\\t\\\\q\" -16))" ∧
      parseWith ⟨some 2, true⟩ (.text (t.pretty ++ "\n")) none = .ok (.list [t]) ∧
      ∃ e, parseWith ⟨some 1, true⟩ (.text (t.pretty ++ "\n")) none = .error (.syntactic e) ∧
        e.fault = .nestingTooDeep 1 := by
  intro t
  have written : t.pretty = "(a\n (\"\\t\\\\q\" -16))" := by
    rw [Tree.pretty_eq_stacked]
    decide
  have name : Tree.IsName ['a'] := by
    simp only [Tree.IsName, List.forall_mem_singleton]
    decide
  have readable : t.Readable := by simp [t, Tree.Readable, Tree.AllReadable, name]
  have within := (parseWith_printed readable (.inr rfl) ⟨some 2, true⟩ none).1
  have beyond := (parseWith_printed readable (.inr rfl) ⟨some 1, true⟩ none).2.1
  refine ⟨written, within ?_, beyond 1 rfl (by decide)⟩
  intro limit limited
  obtain rfl := Option.some.inj limited
  decide

end Sexpr
