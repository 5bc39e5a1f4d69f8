/-! # Trees

What a text says: integers, string literals, symbols, and lists of these. A
symbol and a string literal both carry a text and are never the same tree.
-/

namespace Sexpr

/-- A tree. An integer has any size, and a text any characters. -/
inductive Tree where
  | integer (value : Int)
  | string (text : String)
  | symbol (name : String)
  | list (items : List Tree)
  deriving Repr, Inhabited

namespace Tree

/-- Is it anything but a list? -/
def isAtom : Tree → Bool
  | .list _ => false
  | _ => true

def items? : Tree → Option (List Tree)
  | .list items => some items
  | _ => none

def symbol? : Tree → Option String
  | .symbol name => some name
  | _ => none

def string? : Tree → Option String
  | .string text => some text
  | _ => none

def integer? : Tree → Option Int
  | .integer value => some value
  | _ => none

/-- Every tree has a property that a list has whenever all of its items have it. -/
@[elab_as_elim]
theorem rec_strong {motive : Tree → Prop} (integer : ∀ value, motive (.integer value))
    (string : ∀ text, motive (.string text)) (symbol : ∀ name, motive (.symbol name))
    (list : ∀ items, (∀ t ∈ items, motive t) → motive (.list items)) (t : Tree) : motive t :=
  @Tree.rec motive (fun items => ∀ t ∈ items, motive t) integer string symbol list (by simp)
    (fun _ _ first others => List.forall_mem_cons.mpr ⟨first, others⟩) t

/-! ## Size

Trees may be nested deeper than a recursion can go when it runs. Walks over a
tree therefore keep a list of the nodes still to visit, and the number of nodes
left is what shows that they end.
-/

mutual
def size : Tree → Nat
  | .list items => sizeAll items + 1
  | _ => 1

def sizeAll : List Tree → Nat
  | [] => 0
  | t :: ts => t.size + sizeAll ts
end

@[simp] theorem size_integer (n : Int) : (Tree.integer n).size = 1 := rfl

@[simp] theorem size_string (s : String) : (Tree.string s).size = 1 := rfl

@[simp] theorem size_symbol (s : String) : (Tree.symbol s).size = 1 := rfl

@[simp] theorem size_list (items : List Tree) : (Tree.list items).size = sizeAll items + 1 := rfl

@[simp] theorem sizeAll_nil : sizeAll [] = 0 := rfl

@[simp] theorem sizeAll_cons (t : Tree) (ts : List Tree) :
    sizeAll (t :: ts) = t.size + sizeAll ts := rfl

theorem size_pos (t : Tree) : 0 < t.size := by
  cases t <;> simp

@[simp] theorem sizeAll_append (ts us : List Tree) :
    sizeAll (ts ++ us) = sizeAll ts + sizeAll us := by
  induction ts with
  | nil => simp
  | cons t ts ih => simp [ih, Nat.add_assoc]

@[simp] theorem sizeAll_reverse (ts : List Tree) : sizeAll ts.reverse = sizeAll ts := by
  induction ts with
  | nil => rfl
  | cons t ts ih => simp [ih, Nat.add_comm]

theorem sizeAll_map_fst_zip_le (ts us : List Tree) :
    sizeAll ((ts.zip us).map (·.1)) ≤ sizeAll ts := by
  induction ts generalizing us with
  | nil => simp
  | cons t ts ih =>
      cases us with
      | nil => simp
      | cons u us => simpa using ih us

/-! ## Equality -/

/-- Are the two trees of every pair the same? -/
def allSame : List (Tree × Tree) → Bool
  | [] => true
  | (.integer m, .integer n) :: rest => m == n && allSame rest
  | (.string s, .string t) :: rest => s == t && allSame rest
  | (.symbol s, .symbol t) :: rest => s == t && allSame rest
  | (.list xs, .list ys) :: rest => xs.length == ys.length && allSame (xs.zip ys ++ rest)
  | _ => false
termination_by pairs => sizeAll (pairs.map (·.1))
decreasing_by
  all_goals
    simp only [List.map_cons, List.map_append, sizeAll_cons, sizeAll_append, size_integer,
      size_string, size_symbol, size_list]
  · omega
  · omega
  · omega
  · have := sizeAll_map_fst_zip_le xs ys
    omega

theorem forall_zip_eq_iff {xs ys : List Tree} (h : xs.length = ys.length) :
    (∀ p ∈ xs.zip ys, p.1 = p.2) ↔ xs = ys := by
  induction xs generalizing ys with
  | nil => cases ys <;> simp_all
  | cons x xs ih =>
      cases ys with
      | nil => simp at h
      | cons y ys =>
          simp only [List.zip_cons_cons, List.forall_mem_cons, List.cons.injEq,
            ih (by simpa using h)]

theorem allSame_iff (pairs : List (Tree × Tree)) :
    allSame pairs = true ↔ ∀ p ∈ pairs, p.1 = p.2 := by
  fun_induction allSame pairs with
  | case1 => simp
  | case2 m n rest ih => simp [ih]
  | case3 s t rest ih => simp [ih]
  | case4 s t rest ih => simp [ih]
  | case5 xs ys rest ih =>
      by_cases h : xs.length = ys.length
      · have := forall_zip_eq_iff h
        simp only [h, BEq.rfl, Bool.true_and, ih, List.mem_append, List.mem_cons]
        constructor
        · intro all p hp
          rcases hp with rfl | hp
          · exact congrArg Tree.list (this.1 fun q hq => all q (.inl hq))
          · exact all p (.inr hp)
        · intro all p hp
          rcases hp with hp | hp
          · exact this.2 (Tree.list.inj (all _ (.inl rfl))) p hp
          · exact all p (.inr hp)
      · have : xs ≠ ys := fun e => h (congrArg List.length e)
        simp [h, this]
  | case6 pairs hnil hint hstr hsym hlist =>
      rcases pairs with _ | ⟨⟨t, u⟩, rest⟩
      · exact absurd rfl hnil
      · simp only [Bool.false_eq_true, false_iff]
        intro all
        obtain rfl : t = u := all (t, u) List.mem_cons_self
        cases t with
        | integer m => exact hint m m rest rfl
        | string s => exact hstr s s rest rfl
        | symbol s => exact hsym s s rest rfl
        | list xs => exact hlist xs xs rest rfl

instance : DecidableEq Tree := fun t u =>
  decidable_of_iff (allSame [(t, u)] = true) (by simp [allSame_iff])

end Tree

end Sexpr
