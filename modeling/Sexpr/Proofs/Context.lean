import Sexpr.Proofs.Steps

/-! # Reading inside a context

A reader that stands between items does not look at what it has read before: the
items in front of it and the lists around it only have to be there in the end. So a
run from the beginning of a text says what a run inside other lists does, as long as
it closes none of them, and as long as no limit counts them.
-/

namespace Sexpr.Reader

variable {settings : Settings} {below : List Tree} {around : List (List Tree)}

/-- The same lists, innermost first, with the items `below` before those of the
    outermost one, and with the lists `around` around it. -/
inductive Nested (below : List Tree) (around : List (List Tree)) :
    List (List Tree) → List (List Tree) → Prop where
  | outermost {items} : Nested below around [items] ((items ++ below) :: around)
  | inner {items lists lists'} (outer : Nested below around lists lists') :
      Nested below around (items :: lists) (items :: lists')

/-- The reader `r` is in the middle of the same token as `alone` is, and has the same
    lists in this context. -/
structure Inside (below : List Tree) (around : List (List Tree)) (alone r : Reader) : Prop where
  token : r.token = alone.token
  lists : Nested below around (alone.items :: alone.frames.lists) (r.items :: r.frames.lists)

theorem inside_start (frames : Frames) (items : List Tree) :
    Inside items frames.lists start ⟨.word [], frames, items⟩ :=
  ⟨rfl, .outermost⟩

theorem Nested.cons {items items' : List Tree} {lists lists' : List (List Tree)}
    (h : Nested below around (items :: lists) (items' :: lists')) (t : Tree) :
    Nested below around ((t :: items) :: lists) ((t :: items') :: lists') := by
  cases h with
  | outermost => exact .outermost
  | inner outer => exact .inner outer

theorem Nested.length_eq {lists lists' : List (List Tree)} (h : Nested below around lists lists') :
    lists'.length = lists.length + around.length := by
  induction h with
  | outermost => simp [Nat.add_comm]
  | inner _ ih => simp [ih, Nat.add_right_comm]

theorem Nested.wordEnd {letters : List Char} {items ended items' : List Tree}
    {lists lists' : List (List Tree)} (word : WordEnd letters items ended)
    (h : Nested below around (items :: lists) (items' :: lists')) :
    ∃ ended', WordEnd letters items' ended' ∧
      Nested below around (ended :: lists) (ended' :: lists') := by
  cases word with
  | noWord => exact ⟨_, .noWord, h⟩
  | word nonempty value => exact ⟨_, .word nonempty value, h.cons _⟩

theorem Nested.outer {items outer items' : List Tree} {lists lists' : List (List Tree)}
    (h : Nested below around (items :: outer :: lists) (items' :: lists')) :
    items' = items ∧ ∃ outer' wider, lists' = outer' :: wider ∧
      Nested below around (outer :: lists) (outer' :: wider) := by
  cases h with
  | inner outside =>
      cases lists' with
      | nil => cases outside
      | cons outer' wider => exact ⟨rfl, outer', wider, rfl, outside⟩

/-- A step can be taken inside the context, unless a limit counts the lists of it. -/
theorem Step.inside (room : settings.maxDepth = none ∨ around = []) {alone alone' r : Reader}
    {c : Char} (step : Step settings alone c alone') (inside : Inside below around alone r) :
    ∃ r', Step settings r c r' ∧ Inside below around alone' r' := by
  obtain ⟨token, frames, items⟩ := r
  obtain ⟨same, nested⟩ := inside
  dsimp only at same nested
  subst same
  cases step with
  | letter plain => exact ⟨_, .letter plain, rfl, nested⟩
  | blank blank ended =>
      obtain ⟨items', ended', nested'⟩ := nested.wordEnd ended
      exact ⟨_, .blank blank ended', rfl, nested'⟩
  | semicolon ended =>
      obtain ⟨items', ended', nested'⟩ := nested.wordEnd ended
      exact ⟨_, .semicolon ended', rfl, nested'⟩
  | quote ended =>
      obtain ⟨items', ended', nested'⟩ := nested.wordEnd ended
      exact ⟨_, .quote ended', rfl, nested'⟩
  | opened ended free =>
      -- Only here is the number of open lists compared with a limit.
      obtain ⟨items', ended', nested'⟩ := nested.wordEnd ended
      refine ⟨_, .opened ended' ?_, rfl, .inner nested'⟩
      intro limit limited
      rcases room with unlimited | rfl
      · rw [unlimited] at limited
        cases limited
      · have := free limit limited
        have := nested.length_eq
        simp only [Frames.count_eq, List.length_cons, List.length_nil] at *
        omega
  | closed ended =>
      obtain ⟨items', ended', nested'⟩ := nested.wordEnd ended
      obtain ⟨rfl, outer', wider, lists, further⟩ := nested'.outer
      obtain ⟨frames, rfl, rfl⟩ := Frames.exists_push_of_lists_eq lists
      exact ⟨_, .closed ended', rfl, further.cons _⟩
  | commented line => exact ⟨_, .commented line, rfl, nested⟩
  | commentEnd => exact ⟨_, .commentEnd, rfl, nested⟩
  | plain quote backslash => exact ⟨_, .plain quote backslash, rfl, nested⟩
  | backslash => exact ⟨_, .backslash, rfl, nested⟩
  | literalEnd => exact ⟨_, .literalEnd, rfl, nested.cons _⟩
  | escaped meaning => exact ⟨_, .escaped meaning, rfl, nested⟩
  | kept lenient meaning => exact ⟨_, .kept lenient meaning, rfl, nested⟩

theorem run_inside (room : settings.maxDepth = none ∨ around = []) {alone alone' r : Reader}
    {text : List Char} (run : alone.run settings text = .ok alone')
    (inside : Inside below around alone r) :
    ∃ r', r.run settings text = .ok r' ∧ Inside below around alone' r' :=
  run_follows (Inside below around) (fun inside step => step.inside room inside) run inside

/-- In a context nothing comes between its lists: those of the text alone stand first, the
    outermost one of them in front of the items that it continues. -/
theorem Nested.exists_eq_append {lists lists' : List (List Tree)}
    (h : Nested below around lists lists') :
    ∃ inner added, lists = inner ++ [added] ∧ lists' = inner ++ (added ++ below) :: around := by
  induction h with
  | @outermost items => exact ⟨[], items, rfl, rfl⟩
  | @inner items lists lists' outer ih =>
      obtain ⟨inner, added, rfl, rfl⟩ := ih
      exact ⟨items :: inner, added, rfl, rfl⟩

theorem Inside.eq_of_closed {frames : Frames} {alone r : Reader}
    (inside : Inside below frames.lists alone r) (closed : alone.frames = .empty) :
    r = ⟨alone.token, frames, alone.items ++ below⟩ := by
  obtain ⟨token, frames', items⟩ := r
  obtain ⟨rfl, nested⟩ := inside
  rw [closed, Frames.lists_empty] at nested
  obtain ⟨inner, added, single, lists⟩ := nested.exists_eq_append
  obtain ⟨rfl, rfl⟩ : inner = [] ∧ added = alone.items := by
    cases inner <;> simp_all
  obtain ⟨rfl, waiting⟩ := List.cons.inj lists
  obtain rfl : frames' = frames := Frames.ext waiting
  rfl

/-! ## Behind other items

With no list around, the context is items that stand before the text. -/

theorem Refusal.inside {alone r : Reader} {c : Char} {fault : Fault}
    (refusal : Refusal settings alone c fault) (inside : Inside below [] alone r) :
    Refusal settings r c fault := by
  obtain ⟨token, frames, items⟩ := r
  obtain ⟨same, nested⟩ := inside
  dsimp only at same nested
  subst same
  have size : frames.lists.length = alone.frames.lists.length := by simpa using nested.length_eq
  cases refusal with
  | malformed delimiter nonempty value => exact .malformed delimiter nonempty value
  | tooDeep ended limited full =>
      obtain ⟨items', ended', -⟩ := nested.wordEnd ended
      refine .tooDeep ended' limited ?_
      rwa [frames.count_eq, size, ← Frames.count_eq]
  | unopened ended =>
      obtain ⟨items', ended', -⟩ := nested.wordEnd ended
      obtain rfl : frames = .empty := Frames.ext (List.length_eq_zero_iff.mp size)
      exact .unopened ended'
  | escape strict meaning => exact .escape strict meaning

theorem Inside.finish_eq_error {alone r : Reader} {fault : Fault}
    (inside : Inside below [] alone r) (early : alone.finish = .error fault) :
    r.finish = .error fault := by
  have size : r.frames.lists.length = alone.frames.lists.length := by
    simpa using inside.lists.length_eq
  have outermost : r.frames.lists.isEmpty = alone.frames.lists.isEmpty := by
    rw [Bool.eq_iff_iff, List.isEmpty_iff_length_eq_zero, List.isEmpty_iff_length_eq_zero, size]
  unfold finish at early ⊢
  rw [inside.token, outermost]
  split at early
  · exact early
  · exact early
  · exact early
  all_goals
    split at early
    · cases early
    · next opened => rwa [if_neg opened]

theorem Inside.finish_eq_ok {alone r : Reader} {trees : List Tree}
    (inside : Inside below [] alone r) (finished : alone.finish = .ok (.list trees)) :
    r.finish = .ok (.list (below.reverse ++ trees)) := by
  obtain ⟨between, closed, same⟩ := finish_eq_ok_iff.mp finished
  have whole := @Inside.eq_of_closed below .empty _ _ inside closed
  refine finish_eq_ok_iff.mpr ⟨whole ▸ between, whole ▸ rfl, ?_⟩
  rw [whole, List.reverse_append, Tree.list.inj same]

end Reader

end Sexpr
