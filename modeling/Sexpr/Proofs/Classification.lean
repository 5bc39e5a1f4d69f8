import Mathlib.Data.List.Forall2
import Mathlib.Data.Nat.Digits.Defs
import Sexpr.Proofs.Numerals

/-! # Which words are integers

A word is an integer if it is a numeral behind at most one minus sign: digits of one base,
at least one of them, with the announcement of the base in front unless it is ten. The
digits are worth what their positions say. A word that only begins like a numeral is
malformed, and any other word is a symbol.
-/

namespace Sexpr

namespace Numeral

/-! ## Digits and their positions -/

def IsDigit (radix : Nat) (c : Char) (value : Nat) : Prop :=
  value < radix ∧ (c = value.digitChar ∨ c = value.digitChar.toUpper)

/-- The characters are digits of this base, at least one of them, and this is their
    positional value. -/
def Spells (radix : Nat) (digits : List Char) (n : Nat) : Prop :=
  digits ≠ [] ∧ ∃ values, List.Forall₂ (IsDigit radix) digits values ∧
    n = Nat.ofDigits radix values.reverse

theorem toNat_digitChar {d : Nat} (h : d < 16) :
    d.digitChar.toNat = (if d < 10 then 48 + d else 87 + d) ∧
      d.digitChar.toUpper.toNat = if d < 10 then 48 + d else 55 + d := by
  have table : ∀ d < 16, d.digitChar.toNat = (if d < 10 then 48 + d else 87 + d) ∧
      d.digitChar.toUpper.toNat = if d < 10 then 48 + d else 55 + d := by decide
  exact table d h

variable {radix : Nat} {digits : List Char}

theorem isDigit_iff_toNat (h : radix ≤ 16) {c : Char} {d : Nat} :
    IsDigit radix c d ↔
      d < radix ∧ (d < 10 ∧ c.toNat = 48 + d ∨
        10 ≤ d ∧ (c.toNat = 87 + d ∨ c.toNat = 55 + d)) := by
  by_cases small : d < radix
  · obtain ⟨lower, upper⟩ := toNat_digitChar (Nat.lt_of_lt_of_le small h)
    simp only [IsDigit, ← Char.toNat_inj, lower, upper]
    split <;> omega
  · simp only [IsDigit, small, false_and]

theorem isDigit_iff_between {c : Char} : c.isDigit = true ↔ 48 ≤ c.toNat ∧ c.toNat ≤ 57 := by
  simp only [Char.isDigit, Bool.and_eq_true, decide_eq_true_eq]
  exact Iff.rfl

theorem isDigit_iff_exists {c : Char} : c.isDigit = true ↔ ∃ d, IsDigit 10 c d := by
  simp only [isDigit_iff_between, isDigit_iff_toNat (by decide : 10 ≤ 16)]
  constructor
  · intro between
    exact ⟨c.toNat - 48, by omega⟩
  · rintro ⟨d, written⟩
    omega

theorem digitValue_eq_some_iff {c : Char} {d : Nat} : digitValue c = some d ↔ IsDigit 16 c d := by
  have lower : 'a' ≤ c ∧ c ≤ 'f' ↔ 97 ≤ c.toNat ∧ c.toNat ≤ 102 := Iff.rfl
  have upper : 'A' ≤ c ∧ c ≤ 'F' ↔ 65 ≤ c.toNat ∧ c.toNat ≤ 70 := Iff.rfl
  simp only [digitValue, isDigit_iff_between, lower, upper, Char.reduceToNat,
    isDigit_iff_toNat (Nat.le_refl 16)]
  split
  · simp only [Option.some.injEq]
    omega
  · split
    · simp only [Option.some.injEq]
      omega
    · split
      · simp only [Option.some.injEq]
        omega
      · simp only [reduceCtorEq, false_iff]
        omega

theorem digitIn_eq_some_iff (h : radix ≤ 16) {c : Char} {d : Nat} :
    digitIn radix c = some d ↔ IsDigit radix c d := by
  simp only [digitIn, Option.filter_eq_some_iff, digitValue_eq_some_iff, IsDigit,
    decide_eq_true_eq]
  constructor
  · rintro ⟨⟨_, written⟩, small⟩
    exact ⟨small, written⟩
  · rintro ⟨small, written⟩
    exact ⟨⟨Nat.lt_of_lt_of_le small h, written⟩, small⟩

theorem extend_cons_eq_some_iff (h : radix ≤ 16) {c : Char} {n m : Nat} :
    extend radix n (c :: digits) = some m ↔
      ∃ d, IsDigit radix c d ∧ extend radix (n * radix + d) digits = some m := by
  simp only [extend, List.foldlM_cons, Option.bind_eq_bind, Option.bind_eq_some_iff,
    Option.map_eq_some_iff, digitIn_eq_some_iff h]
  constructor
  · rintro ⟨_, ⟨d, digit, same⟩, rest⟩
    exact ⟨d, digit, same ▸ rest⟩
  · rintro ⟨d, digit, rest⟩
    exact ⟨_, ⟨d, digit, rfl⟩, rest⟩

theorem extend_eq_some_iff (h : radix ≤ 16) {n m : Nat} :
    extend radix n digits = some m ↔
      ∃ values, List.Forall₂ (IsDigit radix) digits values ∧
        m = n * radix ^ digits.length + Nat.ofDigits radix values.reverse := by
  induction digits generalizing n with
  | nil => simp [extend, eq_comm]
  | cons c digits ih =>
      have moved {values : List Nat} (spelled : List.Forall₂ (IsDigit radix) digits values)
          (d : Nat) :
          (n * radix + d) * radix ^ digits.length + Nat.ofDigits radix values.reverse =
            n * radix ^ (c :: digits).length + Nat.ofDigits radix (d :: values).reverse := by
        simp only [Nat.ofDigits_reverse_cons, ← spelled.length_eq, List.length_cons, pow_succ]
        ring
      simp only [extend_cons_eq_some_iff h, ih]
      constructor
      · rintro ⟨d, digit, values, spelled, same⟩
        exact ⟨d :: values, .cons digit spelled, same.trans (moved spelled d)⟩
      · rintro ⟨_, spelled, same⟩
        cases spelled with
        | @cons _ d _ values digit spelled =>
            exact ⟨d, digit, values, spelled, same.trans (moved spelled d).symm⟩

theorem Spells.forall_isDigit {n : Nat} (h : Spells 10 digits n) :
    ∀ c ∈ digits, c.isDigit = true := by
  obtain ⟨_, values, spelled, _⟩ := h
  clear * - spelled
  induction spelled with
  | nil => simp
  | cons digit _ ih => exact List.forall_mem_cons.mpr ⟨isDigit_iff_exists.mpr ⟨_, digit⟩, ih⟩

theorem value_eq_some_iff (h : radix ≤ 16) {n : Nat} :
    value radix digits = some n ↔ Spells radix digits n := by
  cases digits with
  | nil => simp [value, Spells]
  | cons c digits => simp [value, Spells, extend_eq_some_iff h]

end Numeral

namespace Word

open Numeral

/-! ## Words without a sign -/

def unsigned : List Char → List Char
  | '-' :: word => word
  | word => word

/-- The word is a numeral without a sign, and this is what it is worth. -/
inductive IsNumeral : List Char → Nat → Prop where
  | decimal {digits n} (spelled : Spells 10 digits n) : IsNumeral digits n
  | hexadecimal {digits n} (spelled : Spells 16 digits n) : IsNumeral ('0' :: 'x' :: digits) n
  | octal {digits n} (spelled : Spells 8 digits n) : IsNumeral ('0' :: 'o' :: digits) n
  | binary {digits n} (spelled : Spells 2 digits n) : IsNumeral ('0' :: 'b' :: digits) n

def BeginsWithDigit (word : List Char) : Prop :=
  ∃ c d, word.head? = some c ∧ IsDigit 10 c d

/-- The base that a word announces with its first two characters. -/
def announced (word : List Char) : Nat :=
  if ['0', 'x'] <+: word then 16
  else if ['0', 'o'] <+: word then 8
  else if ['0', 'b'] <+: word then 2
  else 10

theorem fst_splitRadix (word : List Char) : (splitRadix word).1 = announced word := by
  unfold splitRadix
  split
  · rfl
  · rfl
  · rfl
  · next hexadecimal octal binary =>
      have other (c : Char) (h : ∀ digits, word ≠ '0' :: c :: digits) : ¬ ['0', c] <+: word := by
        rintro ⟨digits, same⟩
        exact h digits same.symm
      simp only [announced, other _ hexadecimal, other _ octal, other _ binary, if_false]

theorem announced_le (word : List Char) : announced word ≤ 16 := by
  unfold announced
  repeat' split
  all_goals decide

theorem startsWithDigit_iff {word : List Char} :
    startsWithDigit word = true ↔ BeginsWithDigit word := by
  cases word with
  | nil => simp [startsWithDigit, BeginsWithDigit]
  | cons c word => simp [startsWithDigit, BeginsWithDigit, isDigit_iff_exists]

/-- A numeral without a sign begins with a digit: with its first one, or with the zero of
    the announcement. -/
theorem isNumeral_iff {word : List Char} {n : Nat} :
    IsNumeral word n ↔
      startsWithDigit word = true ∧ value (splitRadix word).1 (splitRadix word).2 = some n := by
  constructor
  · intro numeral
    cases numeral with
    | decimal spelled =>
        have digits := spelled.forall_isDigit
        simp only [startsWithDigit_of_isDigit spelled.1 digits, splitRadix_of_isDigit digits,
          (value_eq_some_iff (by decide)).mpr spelled, and_self]
    | hexadecimal spelled => exact ⟨rfl, (value_eq_some_iff (Nat.le_refl 16)).mpr spelled⟩
    | octal spelled => exact ⟨rfl, (value_eq_some_iff (by decide : 8 ≤ 16)).mpr spelled⟩
    | binary spelled => exact ⟨rfl, (value_eq_some_iff (by decide : 2 ≤ 16)).mpr spelled⟩
  · rintro ⟨_, read⟩
    rw [value_eq_some_iff (fst_splitRadix word ▸ announced_le word)] at read
    unfold splitRadix at read
    split at read
    · exact .hexadecimal read
    · exact .octal read
    · exact .binary read
    · exact .decimal read

theorem IsNumeral.unique {word : List Char} {m n : Nat} (h : IsNumeral word m)
    (h' : IsNumeral word n) : m = n := by
  have first := (isNumeral_iff.mp h).2
  have second := (isNumeral_iff.mp h').2
  exact Option.some.inj (first.symm.trans second)

theorem ofUnsigned_cases (word : List Char) :
    (∃ n, IsNumeral word n ∧ ofUnsigned word = .integer n) ∨
      (∀ n, ¬ IsNumeral word n) ∧
        (BeginsWithDigit word ∧ ofUnsigned word = .malformed (announced word) ∨
          ¬ BeginsWithDigit word ∧ ofUnsigned word = .symbol) := by
  simp only [isNumeral_iff, ← startsWithDigit_iff, ← fst_splitRadix, ofUnsigned]
  cases startsWithDigit word with
  | false => simp
  | true => cases value (splitRadix word).1 (splitRadix word).2 <;> simp

/-! ## All words -/

theorem ofChars_eq (word : List Char) :
    ofChars word =
      if word.head? = some '-' then (ofUnsigned (unsigned word)).negate
      else ofUnsigned (unsigned word) := by
  cases word with
  | nil => rfl
  | cons c word =>
      by_cases sign : c = '-'
      · subst sign
        rfl
      · simp [ofChars, unsigned, sign]

theorem ofChars_cases (word : List Char) :
    (∃ n : Nat, IsNumeral (unsigned word) n ∧
      ofChars word = .integer (if word.head? = some '-' then -(n : Int) else n)) ∨
      (∀ n, ¬ IsNumeral (unsigned word) n) ∧
        (BeginsWithDigit (unsigned word) ∧ ofChars word = .malformed (announced (unsigned word)) ∨
          ¬ BeginsWithDigit (unsigned word) ∧ ofChars word = .symbol) := by
  rw [ofChars_eq]
  rcases ofUnsigned_cases (unsigned word) with
    ⟨n, numeral, read⟩ | ⟨none, ⟨digit, read⟩ | ⟨noDigit, read⟩⟩
  · refine .inl ⟨n, numeral, ?_⟩
    rw [read]
    split <;> rfl
  · refine .inr ⟨none, .inl ⟨digit, ?_⟩⟩
    rw [read]
    exact ite_self _
  · refine .inr ⟨none, .inr ⟨noDigit, ?_⟩⟩
    rw [read]
    exact ite_self _

/-- A word is an integer exactly if it is a numeral behind at most one minus sign, and this
    numeral says which one. It is malformed exactly if it begins with a digit there and is
    no numeral, in the base that it announces. All other words are symbols. The decimal
    numeral of an integer is a word for this integer. -/
theorem ofChars_classified (word : List Char) :
    (∀ v, ofChars word = .integer v ↔ ∃ n : Nat, IsNumeral (unsigned word) n ∧
      v = if word.head? = some '-' then -(n : Int) else n) ∧
    (∀ radix, ofChars word = .malformed radix ↔ BeginsWithDigit (unsigned word) ∧
      (∀ n, ¬ IsNumeral (unsigned word) n) ∧ radix = announced (unsigned word)) ∧
    (ofChars word = .symbol ↔
      ¬ BeginsWithDigit (unsigned word) ∧ ∀ n, ¬ IsNumeral (unsigned word) n) ∧
    ∀ n : Int, ofChars (toString n).toList = .integer n := by
  rcases ofChars_cases word with ⟨n, numeral, read⟩ | ⟨none, ⟨digit, read⟩ | ⟨noDigit, read⟩⟩
  · have alone (m : Nat) : IsNumeral (unsigned word) m ↔ m = n :=
      ⟨fun other => other.unique numeral, fun same => same ▸ numeral⟩
    refine ⟨?_, ?_, ?_, ofChars_toString⟩ <;> simp [read, alone, eq_comm]
  · refine ⟨?_, ?_, ?_, ofChars_toString⟩ <;> simp [read, none, digit, eq_comm]
  · refine ⟨?_, ?_, ?_, ofChars_toString⟩ <;> simp [read, none, noDigit]

/-- A sign, the announcement of a base, a leading zero, and digits in either case. -/
example : ofChars "-0x0fF".toList = .integer (-255) := by decide

end Word

end Sexpr
