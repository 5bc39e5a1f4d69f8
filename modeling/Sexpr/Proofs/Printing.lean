import Sexpr.Tree.Printer

/-! # The printers write the two forms

A printer's list of steps is worth the text that its steps stand for, one after the
other. Every turn of the loop moves some of that text into the output, so the output in
the end is the text of all steps. This holds for either form of a tree.
-/

namespace Sexpr.Tree

theorem map_intersperse {α β : Type} (f : α → β) (separator : α) (xs : List α) :
    (xs.intersperse separator).map f = (xs.map f).intersperse (f separator) := by
  induction xs with
  | nil => rfl
  | cons x xs ih =>
      cases xs with
      | nil => rfl
      | cons y ys =>
          simp only [List.map_cons, List.intersperse_cons_cons] at ih ⊢
          rw [ih]

namespace Step

theorem join_forItems (text : Step → String) (items : List Tree) (indent : Nat)
    (separator : Step) :
    String.join ((forItems items indent separator).map text) =
      String.join ((items.map fun t => text (.item t indent)).intersperse (text separator)) := by
  rw [forItems, map_intersperse, List.map_map]
  rfl

/-! ## On one line -/

def oneLineText : Step → String
  | .item t _ => t.oneLine
  | .space => " "
  | .lineBreak _ => "\n"
  | .close => ")"

def oneLineTexts (todo : List Step) : String :=
  String.join (todo.map oneLineText)

@[simp] theorem oneLineTexts_nil : oneLineTexts [] = "" := rfl

@[simp] theorem oneLineTexts_cons (s : Step) (todo : List Step) :
    oneLineTexts (s :: todo) = s.oneLineText ++ oneLineTexts todo := by
  simp [oneLineTexts]

@[simp] theorem oneLineTexts_append (todo rest : List Step) :
    oneLineTexts (todo ++ rest) = oneLineTexts todo ++ oneLineTexts rest := by
  simp [oneLineTexts]

theorem oneLineTexts_forItems (items : List Tree) (indent : Nat) :
    oneLineTexts (forItems items indent .space) =
      String.join ((oneLineAll items).intersperse " ") := by
  rw [oneLineTexts, join_forItems, oneLineAll_eq_map]
  rfl

theorem atomText_eq_oneLine {t : Tree} (h : ∀ items, t ≠ .list items) :
    t.atomText = t.oneLine := by
  cases t with
  | list items => exact absurd rfl (h items)
  | integer | string | symbol => simp only [oneLine]

/-- From any list of steps and behind any output, the loop appends what the steps
    stand for. -/
theorem writeOneLine_eq_append (todo : List Step) (out : String) :
    writeOneLine todo out = out ++ oneLineTexts todo := by
  fun_induction writeOneLine todo out with
  | case1 => simp
  | case2 out items indent todo ih =>
      rw [ih]
      simp [oneLineTexts_forItems, oneLineText, oneLine, String.append_assoc]
  | case3 out t indent todo atom ih =>
      rw [ih, atomText_eq_oneLine (by simpa using atom)]
      simp [oneLineText, String.append_assoc]
  | case4 | case5 | case6 => simp_all [oneLineText, String.append_assoc]

end Step

theorem render_eq_oneLine (t : Tree) : t.render = t.oneLine := by
  simp [render, Step.writeOneLine_eq_append, Step.oneLineText]

/-! ## Stacked -/

theorem stacked_eq_oneLine {t : Tree} (flat : ∀ items, t = .list items → hasListItem items = false)
    (indent : Nat) : t.stacked indent = t.oneLine := by
  cases t with
  | list items => simp only [stacked, flat items rfl, Bool.false_eq_true, if_false]
  | integer | string | symbol => simp only [stacked, oneLine]

namespace Step

def stackedText : Step → String
  | .item t indent => t.stacked indent
  | .space => " "
  | .lineBreak indent => "\n" ++ String.ofList (List.replicate indent ' ')
  | .close => ")"

theorem stackedText_list {items : List Tree} (nested : hasListItem items = true) (indent : Nat) :
    stackedText (.item (.list items) indent) =
      "(" ++ String.join
        ((forItems items (indent + 1) (.lineBreak (indent + 1))).map stackedText) ++ ")" := by
  rw [join_forItems, stackedText, stacked, if_pos nested, stackedAll_eq_map]
  rfl

theorem writeStacked_eq_append (todo : List Step) (out : String) :
    writeStacked todo out = out ++ String.join (todo.map stackedText) := by
  fun_induction writeStacked todo out with
  | case1 => simp
  | case2 items indent todo out nested ih =>
      rw [ih, List.map_append, List.map_cons, List.map_cons, stackedText_list nested]
      simp [stackedText, String.append_assoc]
  | case3 items indent todo out flat ih =>
      have oneLine : (Tree.list items).stacked indent = (Tree.list items).oneLine :=
        stacked_eq_oneLine (by simpa using flat) indent
      rw [ih, render_eq_oneLine, ← oneLine]
      simp [stackedText, String.append_assoc]
  | case4 t indent todo out atom ih =>
      have oneLine : t.stacked indent = t.oneLine := by
        apply stacked_eq_oneLine
        intro items list
        exact absurd list (atom items)
      rw [ih, render_eq_oneLine, ← oneLine]
      simp [stackedText, String.append_assoc]
  | case5 | case6 | case7 => simp_all [stackedText, Tree.lineBreak, String.append_assoc]

end Step

theorem pretty_eq_stacked (t : Tree) : t.pretty = t.stacked 0 := by
  simp [pretty, Step.writeStacked_eq_append, Step.stackedText]

end Sexpr.Tree
