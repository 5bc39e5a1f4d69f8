import Sexpr.Literal
import Sexpr.Tree

/-! # The two written forms of a tree

Every tree can be written on one line. The stacked form of a list with a list
among its items puts each item but the first on a line of its own, one column
to the right of the parenthesis; a list of atoms stays on one line. Both are
defined here by recursion on the tree.
-/

namespace Sexpr.Tree

/-- The text of an atom. A list has none of its own. -/
def atomText : Tree → String
  | .integer value => toString value
  | .string text => Literal.render text
  | .symbol name => name
  | .list _ => ""

/-- A list is stacked when it has a list among its items. -/
def hasListItem (items : List Tree) : Bool :=
  items.any fun t => !t.isAtom

mutual
/-- A tree on one line, the items of each list with one space between them. -/
def oneLine : Tree → String
  | .list items => "(" ++ String.join ((oneLineAll items).intersperse " ") ++ ")"
  | t => t.atomText

def oneLineAll : List Tree → List String
  | [] => []
  | t :: ts => t.oneLine :: oneLineAll ts
end

mutual
/-- A tree in its stacked form, when it begins at the column `indent`. -/
def stacked (indent : Nat) : Tree → String
  | .list items =>
      if hasListItem items then
        "(" ++ String.join ((stackedAll (indent + 1) items).intersperse
          ("\n" ++ String.ofList (List.replicate (indent + 1) ' '))) ++ ")"
      else
        oneLine (.list items)
  | t => t.atomText

def stackedAll (indent : Nat) : List Tree → List String
  | [] => []
  | t :: ts => t.stacked indent :: stackedAll indent ts
end

theorem oneLineAll_eq_map (ts : List Tree) : oneLineAll ts = ts.map oneLine := by
  induction ts with
  | nil => rfl
  | cons t ts ih => simp [oneLineAll, ih]

theorem stackedAll_eq_map (indent : Nat) (ts : List Tree) :
    stackedAll indent ts = ts.map (stacked indent) := by
  induction ts with
  | nil => rfl
  | cons t ts ih => simp [stackedAll, ih]

end Sexpr.Tree
