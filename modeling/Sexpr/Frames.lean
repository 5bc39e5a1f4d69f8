import Sexpr.Tree

/-! # The lists around the innermost one

While a list is read, the lists around it wait for it to be closed. They are
kept innermost first, each with the items it has so far, the newest first. Their
number is kept beside them, so that comparing it with a limit takes no walk.
-/

namespace Sexpr

/-- The items of the lists that wait, and how many lists these are. -/
structure Frames where
  lists : List (List Tree)
  count : Nat
  count_eq : count = lists.length
  deriving Repr, DecidableEq

namespace Frames

@[ext] theorem ext {f g : Frames} (h : f.lists = g.lists) : f = g := by
  cases f; cases g; simp_all

def empty : Frames := ⟨[], 0, rfl⟩

/-- One more list waits, with these items. -/
def push (f : Frames) (items : List Tree) : Frames :=
  ⟨items :: f.lists, f.count + 1, by simp [f.count_eq]⟩

/-- The innermost list that waits, and those around it. -/
def pop? (f : Frames) : Option (List Tree × Frames) :=
  match f with
  | ⟨[], _, _⟩ => none
  | ⟨items :: lists, count, h⟩ => some (items, ⟨lists, count - 1, by simp [h]⟩)

@[simp] theorem lists_empty : empty.lists = [] := rfl

@[simp] theorem lists_push (f : Frames) (items : List Tree) :
    (f.push items).lists = items :: f.lists := rfl

@[simp] theorem count_push (f : Frames) (items : List Tree) :
    (f.push items).count = f.count + 1 := rfl

@[simp] theorem pop?_empty : empty.pop? = none := rfl

@[simp] theorem pop?_push (f : Frames) (items : List Tree) :
    (f.push items).pop? = some (items, f) := rfl

theorem pop?_eq_none_iff {f : Frames} : f.pop? = none ↔ f = empty := by
  constructor
  · intro h
    match f with
    | ⟨[], _, _⟩ => exact Frames.ext rfl
    | ⟨_ :: _, _, _⟩ => simp [pop?] at h
  · rintro rfl
    rfl

theorem pop?_eq_some_iff {f outer : Frames} {items : List Tree} :
    f.pop? = some (items, outer) ↔ f = outer.push items := by
  constructor
  · intro h
    match f with
    | ⟨[], _, _⟩ => simp [pop?] at h
    | ⟨_ :: _, _, _⟩ =>
        simp only [pop?, Option.some.injEq, Prod.mk.injEq] at h
        obtain ⟨rfl, rfl⟩ := h
        exact Frames.ext rfl
  · rintro rfl
    rfl

/-- Frames with a list among them have it as their innermost one, and others around. -/
theorem exists_push_of_lists_eq {f : Frames} {items : List Tree} {lists : List (List Tree)}
    (h : f.lists = items :: lists) : ∃ outer : Frames, f = outer.push items ∧ outer.lists = lists :=
  ⟨⟨lists, lists.length, rfl⟩, Frames.ext h, rfl⟩

end Frames

end Sexpr
