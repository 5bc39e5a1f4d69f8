import Sexpr.Proofs.Steps
import Sexpr.Tree.Census

/-! # A depth limit holds in what is read

With a limit on open lists, the trees that a reader has made so far never nest
deeper than the limit allows where they stand. How deep a tree nests is said by
recursion here, and it is what a walk over its lists finds.
-/

namespace Sexpr

namespace Tree

@[simp] theorem nesting_list (items : List Tree) :
    (Tree.list items).nesting = nestingAll items + 1 := rfl

@[simp] theorem nesting_string (text : String) : (Tree.string text).nesting = 0 := rfl

@[simp] theorem nestingAll_nil : nestingAll [] = 0 := rfl

@[simp] theorem nestingAll_cons (t : Tree) (ts : List Tree) :
    nestingAll (t :: ts) = max t.nesting (nestingAll ts) := rfl

@[simp] theorem nestingAll_append (ts us : List Tree) :
    nestingAll (ts ++ us) = max (nestingAll ts) (nestingAll us) := by
  induction ts with
  | nil => simp
  | cons t ts ih => simp [ih, Nat.max_assoc]

@[simp] theorem nestingAll_reverse (ts : List Tree) : nestingAll ts.reverse = nestingAll ts := by
  induction ts with
  | nil => rfl
  | cons t ts ih => simp [ih, Nat.max_comm]

theorem nesting_of_atom {t : Tree} (atom : ∀ items, t ≠ .list items) : t.nesting = 0 := by
  cases t with
  | list items => exact absurd rfl (atom items)
  | integer | string | symbol => rfl

/-! ## The walk over the levels -/

def deepestBelow (todo : List (Nat × Tree)) (best : Nat) : Nat :=
  todo.foldr (fun (level, t) deepest => max (level + t.nesting) deepest) best

theorem deepestBelow_append (todo rest : List (Nat × Tree)) (best : Nat) :
    deepestBelow (todo ++ rest) best = deepestBelow todo (deepestBelow rest best) :=
  List.foldr_append

theorem le_deepestBelow (todo : List (Nat × Tree)) (best : Nat) :
    best ≤ deepestBelow todo best := by
  induction todo with
  | nil => exact Nat.le_refl _
  | cons pair todo ih => exact Nat.le_trans ih (Nat.le_max_right _ _)

theorem deepestBelow_siblings {level best : Nat} (reached : level ≤ best) (items : List Tree) :
    deepestBelow (items.map (level, ·)) best = max (level + nestingAll items) best := by
  induction items with
  | nil => simp [deepestBelow, reached]
  | cons t ts ih =>
      have others : deepestBelow ((t :: ts).map (level, ·)) best =
          max (level + t.nesting) (deepestBelow (ts.map (level, ·)) best) := rfl
      rw [others, ih, nestingAll_cons]
      omega

theorem deepestBelow_max (todo : List (Nat × Tree)) (best level : Nat) :
    deepestBelow todo (max best level) = max level (deepestBelow todo best) := by
  induction todo with
  | nil => exact Nat.max_comm _ _
  | cons pair todo ih =>
      simp only [deepestBelow, List.foldr_cons] at ih ⊢
      rw [ih]
      omega

/-- The walk over a tree that keeps the levels finds the deepest one, as long as it has been at
    the levels that it starts from. -/
theorem deepest_eq_deepestBelow {todo : List (Nat × Tree)} {best : Nat}
    (reached : ∀ pair ∈ todo, pair.1 ≤ best) : deepest todo best = deepestBelow todo best := by
  fun_induction deepest todo best with
  | case1 => rfl
  | case2 level items todo best ih =>
      obtain ⟨here, reached⟩ := List.forall_mem_cons.mp reached
      have siblings : items.attach.map (fun ⟨t, _⟩ => (level + 1, t)) = items.map (level + 1, ·) :=
        List.attach_map_val
      have inside : ∀ pair ∈ items.map (level + 1, ·) ++ todo, pair.1 ≤ max best (level + 1) := by
        intro pair member
        rcases List.mem_append.mp member with item | behind
        · obtain ⟨t, -, rfl⟩ := List.mem_map.mp item
          exact Nat.le_max_right _ _
        · exact Nat.le_trans (reached pair behind) (Nat.le_max_left _ _)
      have below : level + 1 ≤ deepestBelow todo (max best (level + 1)) :=
        Nat.le_trans (Nat.le_max_right _ _) (le_deepestBelow _ _)
      have cons : deepestBelow ((level, .list items) :: todo) best =
          max (level + (nestingAll items + 1)) (deepestBelow todo best) := rfl
      rw [siblings] at ih
      rw [ih inside, deepestBelow_append, deepestBelow_siblings below, deepestBelow_max, cons]
      omega
  | case3 pair todo best atom ih =>
      obtain ⟨level, t⟩ := pair
      obtain ⟨here, reached⟩ := List.forall_mem_cons.mp reached
      have above : level ≤ deepestBelow todo best := Nat.le_trans here (le_deepestBelow _ _)
      have cons : deepestBelow ((level, t) :: todo) best =
          max (level + t.nesting) (deepestBelow todo best) := rfl
      rw [ih reached, cons, nesting_of_atom (by simpa using atom level)]
      omega

theorem depth_eq_nesting (t : Tree) : t.depth = t.nesting := by
  rw [depth, deepest_eq_deepestBelow (by simp)]
  simp [deepestBelow]

end Tree

theorem Grammar.Bare.nesting {word : List Char} {atom : Tree} (h : Grammar.Bare word atom) :
    atom.nesting = 0 := by
  cases h <;> rfl

namespace Reader

/-- No tree among the items of these lists nests deeper than the limit allows. The
    innermost list comes first, and each one stands inside all that follow it. -/
def NestedWithin (limit : Nat) : List (List Tree) → Prop
  | [] => True
  | items :: lists => Tree.nestingAll items + lists.length ≤ limit ∧ NestedWithin limit lists

theorem WordEnd.nestingAll {letters : List Char} {items items' : List Tree}
    (h : WordEnd letters items items') : Tree.nestingAll items' = Tree.nestingAll items := by
  cases h with
  | noWord => rfl
  | word _ value => simp [value.nesting]

theorem Step.nestedWithin {settings : Settings} {r r' : Reader} {c : Char} {limit : Nat}
    (h : Step settings r c r') (limited : settings.maxDepth = some limit)
    (before : NestedWithin limit (r.items :: r.frames.lists)) :
    NestedWithin limit (r'.items :: r'.frames.lists) := by
  cases h with
  | letter | commented | commentEnd | plain | backslash | escaped | kept => exact before
  | blank _ ended | semicolon ended | quote ended =>
      simpa only [NestedWithin, ended.nestingAll] using before
  | @opened letters frames items items' ended room =>
      have free := room limit limited
      rw [frames.count_eq] at free
      refine ⟨?_, by simpa only [NestedWithin, Frames.lists_push, ended.nestingAll] using before⟩
      simp only [Frames.lists_push, Tree.nestingAll_nil, List.length_cons]
      omega
  | closed ended =>
      obtain ⟨inner, outer, around⟩ := before
      refine ⟨?_, around⟩
      simp only [Frames.lists_push, List.length_cons, Tree.nestingAll_cons, Tree.nesting_list,
        Tree.nestingAll_reverse, ended.nestingAll] at inner outer ⊢
      omega
  | literalEnd => simpa [NestedWithin] using before

theorem run_nestedWithin {settings : Settings} {r : Reader} {text : List Char} {limit : Nat}
    (limited : settings.maxDepth = some limit) (run : start.run settings text = .ok r) :
    NestedWithin limit (r.items :: r.frames.lists) :=
  run_keeps (fun _ r => NestedWithin limit (r.items :: r.frames.lists))
    (fun step before => step.nestedWithin limited before) run [] (by simp [NestedWithin, start])

end Reader

end Sexpr
