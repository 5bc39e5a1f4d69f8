import Sexpr.Proofs.Printing

/-! # The printers, turn by turn

In each turn a printer takes the step on top of its stack and writes a text. For a list
that it opens, it puts what closes the list and then the items onto the stack, from the last
one to the first. The stack may be higher then, but it is never as heavy as before. So a
printer stops, whatever is on its stack, and has then written what all the steps stand for.
-/

namespace Sexpr.Tree.Step

/-! ## One turn -/

structure Turn where
  written : String
  stack : List Step

/-- An item is put onto the stack, and above it the separator that comes before it in the text.
    Only the item with the number 0 has none. -/
def pushItem (indent : Nat) (separator : Step) (numbered : Tree × Nat) (stack : List Step) :
    List Step :=
  let (t, i) := numbered
  if i > 0 then separator :: .item t indent :: stack else .item t indent :: stack

/-- The steps of a list are put onto the stack: what closes it, and then its items from the
    last one to the first. -/
def pushItems (items : List Tree) (indent : Nat) (separator : Step) (todo : List Step) :
    List Step :=
  items.zipIdx.foldr (pushItem indent separator) (.close :: todo)

def turnOneLine : Step → List Step → Turn
  | .item (.list items) _, todo => ⟨"(", pushItems items 0 .space todo⟩
  | .item t _, todo => ⟨t.atomText, todo⟩
  | .space, todo => ⟨" ", todo⟩
  | .lineBreak _, todo => ⟨"\n", todo⟩
  | .close, todo => ⟨")", todo⟩

def turnStacked : Step → List Step → Turn
  | .item (.list items) indent, todo =>
      if hasListItem items then
        ⟨"(", pushItems items (indent + 1) (.lineBreak (indent + 1)) todo⟩
      else
        ⟨(Tree.list items).render, todo⟩
  | .item t _, todo => ⟨t.render, todo⟩
  | .space, todo => ⟨" ", todo⟩
  | .lineBreak indent, todo => ⟨Tree.lineBreak indent, todo⟩
  | .close, todo => ⟨")", todo⟩

theorem forItems_cons (t : Tree) (ts : List Tree) (indent : Nat) (separator : Step) :
    forItems (t :: ts) indent separator =
      .item t indent :: ts.flatMap fun u => [separator, .item u indent] := by
  induction ts generalizing t with
  | nil => rfl
  | cons u us ih =>
      rw [List.flatMap_cons, List.cons_append, List.cons_append, List.nil_append, ← ih u]
      rfl

theorem foldr_pushItem_succ (items : List Tree) (first indent : Nat) (separator : Step)
    (stack : List Step) :
    (items.zipIdx (first + 1)).foldr (pushItem indent separator) stack =
      (items.flatMap fun t => [separator, .item t indent]) ++ stack := by
  induction items generalizing first with
  | nil => rfl
  | cons t ts ih => simp [pushItem, ih]

/-- On the stack the steps of a list are in the order in which they are written. -/
theorem pushItems_eq_append (items : List Tree) (indent : Nat) (separator : Step)
    (todo : List Step) :
    pushItems items indent separator todo =
      forItems items indent separator ++ .close :: todo := by
  cases items with
  | nil => rfl
  | cons t ts =>
      rw [pushItems, List.zipIdx_cons, List.foldr_cons, foldr_pushItem_succ, forItems_cons]
      rfl

example :
    pushItems [.symbol "a", .symbol "b"] 1 (.lineBreak 1) [.close] =
      [.item (.symbol "a") 1, .lineBreak 1, .item (.symbol "b") 1, .close, .close] := rfl

/-! ## All turns -/

/-- With this stack and behind this output, a printer takes so many turns until its stack is
    empty, and its output is `final` then. -/
inductive Stops (turn : Step → List Step → Turn) :
    List Step → String → Nat → String → Prop where
  | empty {out} : Stops turn [] out 0 out
  | taken {s todo out turns final}
      (rest : Stops turn (turn s todo).stack (out ++ (turn s todo).written) turns final) :
      Stops turn (s :: todo) out (turns + 1) final

/-- A function is a printer with these turns: it goes on from one of them to the next, and each
    leaves the stack lighter than it was. -/
structure Takes (turn : Step → List Step → Turn) (write : List Step → String → String) :
    Prop where
  empty (out : String) : write [] out = out
  taken (s : Step) (todo : List Step) (out : String) :
    write (s :: todo) out = write (turn s todo).stack (out ++ (turn s todo).written)
  lighter (s : Step) (todo : List Step) :
    totalWeight (turn s todo).stack < totalWeight (s :: todo)

variable {turn : Step → List Step → Turn} {write : List Step → String → String}

theorem Stops.unique {todo : List Step} {out final final' : String} {turns turns' : Nat}
    (h : Stops turn todo out turns final) (h' : Stops turn todo out turns' final') :
    turns' = turns ∧ final' = final := by
  induction h generalizing turns' with
  | empty =>
      cases h'
      exact ⟨rfl, rfl⟩
  | taken _ ih =>
      cases h' with
      | taken rest =>
          obtain ⟨rfl, same⟩ := ih rest
          exact ⟨rfl, same⟩

/-- There are never more turns than the stack weighs. -/
theorem Takes.exists_stops (takes : Takes turn write) (todo : List Step) (out : String) :
    ∃ turns ≤ totalWeight todo, Stops turn todo out turns (write todo out) := by
  -- The induction is on the weight, since a turn can leave more steps than there were.
  induction weight : totalWeight todo using Nat.strongRecOn generalizing todo out with
  | ind n ih =>
      cases todo with
      | nil =>
          rw [takes.empty]
          exact ⟨0, Nat.zero_le n, .empty⟩
      | cons s todo =>
          have lighter : totalWeight (turn s todo).stack < n := by
            rw [← weight]
            exact takes.lighter s todo
          obtain ⟨turns, bound, rest⟩ := ih _ lighter _ (out ++ (turn s todo).written) rfl
          rw [takes.taken]
          exact ⟨turns + 1, Nat.succ_le_of_lt (Nat.lt_of_le_of_lt bound lighter), .taken rest⟩

theorem Takes.stops_iff (takes : Takes turn write) (todo : List Step) (out : String) :
    ∃ turns ≤ totalWeight todo, ∀ n final,
      Stops turn todo out n final ↔ n = turns ∧ final = write todo out := by
  obtain ⟨turns, bound, stops⟩ := takes.exists_stops todo out
  refine ⟨turns, bound, ?_⟩
  intro n final
  constructor
  · exact stops.unique
  · rintro ⟨rfl, rfl⟩
    exact stops

/-! ## The two printers -/

theorem totalWeight_pushItems_lt (items : List Tree) (above indent : Nat) {separator : Step}
    (light : separator.weight = 1) (todo : List Step) :
    totalWeight (pushItems items indent separator todo) <
      totalWeight (.item (.list items) above :: todo) := by
  have inside := totalWeight_forItems_le items indent separator light
  rw [pushItems_eq_append]
  simp only [totalWeight_append, totalWeight_cons, weight, size_list]
  omega

theorem totalWeight_lt_cons (s : Step) (todo : List Step) :
    totalWeight todo < totalWeight (s :: todo) := by
  have positive : 0 < s.weight := by
    cases s with
    | item t indent => exact weight_item_pos t indent
    | space | lineBreak | close => exact Nat.one_pos
  exact Nat.lt_add_of_pos_left positive

theorem takes_writeOneLine : Takes turnOneLine writeOneLine where
  empty out := by rw [writeOneLine]
  taken s todo out := by
    cases s with
    | item t indent =>
        cases t with
        | list items => rw [turnOneLine, pushItems_eq_append, writeOneLine]
        | integer | string | symbol => simp [turnOneLine, writeOneLine]
    | space | lineBreak | close => rw [turnOneLine, writeOneLine]
  lighter s todo := by
    cases s with
    | item t indent =>
        cases t with
        | list items => exact totalWeight_pushItems_lt items indent 0 rfl todo
        | integer | string | symbol => exact totalWeight_lt_cons _ todo
    | space | lineBreak | close => exact totalWeight_lt_cons _ todo

theorem takes_writeStacked : Takes turnStacked writeStacked where
  empty out := by rw [writeStacked]
  taken s todo out := by
    cases s with
    | item t indent =>
        cases t with
        | list items =>
            rw [turnStacked, writeStacked]
            split
            · rw [pushItems_eq_append]
            · rfl
        | integer | string | symbol => simp [turnStacked, writeStacked]
    | space | lineBreak | close => rw [turnStacked, writeStacked]
  lighter s todo := by
    cases s with
    | item t indent =>
        cases t with
        | list items =>
            rw [turnStacked]
            split
            · exact totalWeight_pushItems_lt items indent (indent + 1) rfl todo
            · exact totalWeight_lt_cons _ todo
        | integer | string | symbol => exact totalWeight_lt_cons _ todo
    | space | lineBreak | close => exact totalWeight_lt_cons _ todo

/-- Whatever is on its stack and has been written before, a printer stops, after no more turns
    than the stack weighs, and has then appended what the steps stand for, from the top of the
    stack on. So a tree alone is written in its one-line form, or in its stacked form. -/
theorem printers_append_texts (todo : List Step) (out : String) :
    (writeOneLine todo out = out ++ String.join (todo.map oneLineText) ∧
      ∃ turns ≤ totalWeight todo, ∀ n final,
        Stops turnOneLine todo out n final ↔ n = turns ∧ final = writeOneLine todo out) ∧
    (writeStacked todo out = out ++ String.join (todo.map stackedText) ∧
      ∃ turns ≤ totalWeight todo, ∀ n final,
        Stops turnStacked todo out n final ↔ n = turns ∧ final = writeStacked todo out) ∧
    ∀ t : Tree, t.render = t.oneLine ∧ t.pretty = t.stacked 0 := by
  refine ⟨⟨?_, ?_⟩, ⟨?_, ?_⟩, ?_⟩
  · exact writeOneLine_eq_append todo out
  · exact takes_writeOneLine.stops_iff todo out
  · exact writeStacked_eq_append todo out
  · exact takes_writeStacked.stops_iff todo out
  · exact fun t => ⟨t.render_eq_oneLine, t.pretty_eq_stacked⟩

end Sexpr.Tree.Step
