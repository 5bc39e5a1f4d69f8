import Sexpr.Tree

/-! # Counting the nodes of a tree

How many lists and how many atoms a tree is made of, and how deep its lists are
nested. Each count is defined by recursion, and has a walk beside it that works
at any depth.
-/

namespace Sexpr.Tree

mutual
/-- How many lists a tree is made of, itself counted in. -/
def listCount : Tree → Nat
  | .list items => listCountAll items + 1
  | _ => 0

def listCountAll : List Tree → Nat
  | [] => 0
  | t :: ts => t.listCount + listCountAll ts
end

mutual
/-- How many atoms a tree is made of, itself counted in. -/
def atomCount : Tree → Nat
  | .list items => atomCountAll items
  | _ => 1

def atomCountAll : List Tree → Nat
  | [] => 0
  | t :: ts => t.atomCount + atomCountAll ts
end

mutual
/-- How many lists enclose the innermost place of a tree. An atom has none, and
    a list of atoms has one. -/
def nesting : Tree → Nat
  | .list items => nestingAll items + 1
  | _ => 0

def nestingAll : List Tree → Nat
  | [] => 0
  | t :: ts => max t.nesting (nestingAll ts)
end

structure Census where
  lists : Nat
  atoms : Nat
  deriving Repr, DecidableEq

/-- Add every node of these trees to the census. -/
def Census.add : List Tree → Census → Census
  | [], c => c
  | .list items :: todo, c => Census.add (items ++ todo) ⟨c.lists + 1, c.atoms⟩
  | _ :: todo, c => Census.add todo ⟨c.lists, c.atoms + 1⟩
termination_by todo => sizeAll todo
decreasing_by
  · simp only [sizeAll_cons, sizeAll_append, size_list]
    omega
  · simp only [sizeAll_cons]
    exact Nat.lt_add_of_pos_left (size_pos _)

def census (t : Tree) : Census :=
  Census.add [t] ⟨0, 0⟩

/-- The deepest level among those reached so far and those of these trees, each
    of which comes with the level it stands at. -/
def deepest : List (Nat × Tree) → Nat → Nat
  | [], best => best
  | (level, .list items) :: todo, best =>
      deepest (items.map (level + 1, ·) ++ todo) (max best (level + 1))
  | _ :: todo, best => deepest todo best
termination_by todo => sizeAll (todo.map (·.2))
decreasing_by
  · simp only [List.map_cons, List.map_append, List.map_map, Function.comp_def,
      List.attach_map_subtype_val, sizeAll_cons, sizeAll_append, size_list]
    omega
  · simp only [List.map_cons, sizeAll_cons]
    exact Nat.lt_add_of_pos_left (size_pos _)

def depth (t : Tree) : Nat :=
  deepest [(0, t)] 0

end Sexpr.Tree
