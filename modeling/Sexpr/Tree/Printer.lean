import Sexpr.Tree.Layout

/-! # Printing trees of any depth

Printing keeps a list of the steps still to take and appends to the text written
so far, so that the depth of a tree is no limit. A list is opened by replacing
its step with one for each item, the separators between them, and the closing
parenthesis.
-/

namespace Sexpr.Tree

/-- One thing to write. A tree comes with the column at which it begins. -/
inductive Step where
  | item (tree : Tree) (indent : Nat)
  | space
  | lineBreak (indent : Nat)
  | close
  deriving Repr

namespace Step

/-- The steps for the items of a list, from its opening parenthesis on. -/
def forItems (items : List Tree) (indent : Nat) (separator : Step) : List Step :=
  (items.map (item · indent)).intersperse separator

/-! Opening a list makes more steps and fewer nodes. Three for each node, less
the one for the space before it, pay for both. -/

/-- How many more steps this one can make, itself counted in. -/
def weight : Step → Nat
  | .item t _ => 3 * t.size - 1
  | _ => 1

def totalWeight : List Step → Nat
  | [] => 0
  | s :: todo => s.weight + totalWeight todo

@[simp] theorem totalWeight_nil : totalWeight [] = 0 := rfl

@[simp] theorem totalWeight_cons (s : Step) (todo : List Step) :
    totalWeight (s :: todo) = s.weight + totalWeight todo := rfl

@[simp] theorem totalWeight_append (todo rest : List Step) :
    totalWeight (todo ++ rest) = totalWeight todo + totalWeight rest := by
  induction todo with
  | nil => simp
  | cons s todo ih => simp [ih, Nat.add_assoc]

theorem weight_item_pos (t : Tree) (indent : Nat) : 0 < (item t indent).weight := by
  have := t.size_pos
  simp only [weight]
  omega

theorem totalWeight_forItems_le (items : List Tree) (indent : Nat) (separator : Step)
    (h : separator.weight = 1) :
    totalWeight (forItems items indent separator) ≤ 3 * sizeAll items := by
  induction items with
  | nil => simp [forItems]
  | cons t ts ih =>
      have pos := t.size_pos
      have item_weight : (item t indent).weight = 3 * t.size - 1 := rfl
      cases ts with
      | nil =>
          simp only [forItems, List.map_cons, List.map_nil, List.intersperse_singleton,
            totalWeight_cons, totalWeight_nil, item_weight, sizeAll_cons, sizeAll_nil]
          omega
      | cons u us =>
          simp only [forItems, List.map_cons, List.intersperse_cons_cons, totalWeight_cons, h,
            item_weight, sizeAll_cons] at ih ⊢
          omega

/-- Write every step on one line, behind the text written so far. -/
def writeOneLine : List Step → String → String
  | [], out => out
  | .item (.list items) _ :: todo, out =>
      writeOneLine (forItems items 0 .space ++ .close :: todo) (out ++ "(")
  | .item t _ :: todo, out => writeOneLine todo (out ++ t.atomText)
  | .space :: todo, out => writeOneLine todo (out ++ " ")
  | .lineBreak _ :: todo, out => writeOneLine todo (out ++ "\n")
  | .close :: todo, out => writeOneLine todo (out ++ ")")
termination_by todo => totalWeight todo
decreasing_by
  · have := totalWeight_forItems_le items 0 .space rfl
    simp only [totalWeight_append, totalWeight_cons, weight, size_list]
    omega
  · simp only [totalWeight_cons]
    exact Nat.lt_add_of_pos_left (weight_item_pos t _)
  all_goals
    simp only [totalWeight_cons, weight]
    omega

end Step

def render (t : Tree) : String :=
  Step.writeOneLine [.item t 0] ""

/-- A new line, with `indent` spaces in front of what comes next. -/
def lineBreak (indent : Nat) : String :=
  "\n" ++ String.ofList (List.replicate indent ' ')

namespace Step

/-- Write every step in stacked form, behind the text written so far. -/
def writeStacked : List Step → String → String
  | [], out => out
  | .item (.list items) indent :: todo, out =>
      if hasListItem items then
        writeStacked (forItems items (indent + 1) (.lineBreak (indent + 1)) ++ .close :: todo)
          (out ++ "(")
      else
        writeStacked todo (out ++ (Tree.list items).render)
  | .item t _ :: todo, out => writeStacked todo (out ++ t.render)
  | .space :: todo, out => writeStacked todo (out ++ " ")
  | .lineBreak indent :: todo, out => writeStacked todo (out ++ Tree.lineBreak indent)
  | .close :: todo, out => writeStacked todo (out ++ ")")
termination_by todo => totalWeight todo
decreasing_by
  · have := totalWeight_forItems_le items (indent + 1) (.lineBreak (indent + 1)) rfl
    simp only [totalWeight_append, totalWeight_cons, weight, size_list]
    omega
  · simp only [totalWeight_cons]
    exact Nat.lt_add_of_pos_left (weight_item_pos (.list items) indent)
  · simp only [totalWeight_cons]
    exact Nat.lt_add_of_pos_left (weight_item_pos t _)
  all_goals
    simp only [totalWeight_cons, weight]
    omega

end Step

def pretty (t : Tree) : String :=
  Step.writeStacked [.item t 0] ""

end Sexpr.Tree
