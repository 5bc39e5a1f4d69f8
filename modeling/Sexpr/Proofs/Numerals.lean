import Sexpr.Word

/-! # Written integers

The decimal numeral of an integer, with a minus sign in front of a negative one, is
a bare word, and it is the word of that integer.
-/

namespace Sexpr

namespace Numeral

theorem isDigit_toDigits (n : Nat) : ∀ c ∈ Nat.toDigits 10 n, c.isDigit = true :=
  fun _ h => Nat.isDigit_of_mem_toDigits (by decide) (by decide) h

theorem digitIn_of_isDigit {c : Char} (h : c.isDigit = true) :
    digitIn 10 c = some (c.toNat - '0'.toNat) := by
  have small : c.toNat - '0'.toNat < 10 := by
    simp only [Char.isDigit, Bool.and_eq_true, decide_eq_true_eq, UInt32.le_iff_toNat_le] at h
    have : c.toNat ≤ 57 := h.2
    have : '0'.toNat = 48 := rfl
    omega
  simp only [digitIn, digitValue, h, if_true, Option.filter_some, small, decide_true]

theorem extend_of_isDigit {digits : List Char} (h : ∀ c ∈ digits, c.isDigit = true) (n : Nat) :
    extend 10 n digits = some (Nat.ofDigitChars 10 digits n) := by
  induction digits generalizing n with
  | nil => rfl
  | cons c digits ih =>
      obtain ⟨first, rest⟩ := List.forall_mem_cons.mp h
      have more := ih rest (n * 10 + (c.toNat - '0'.toNat))
      simp only [extend, List.foldlM_cons, digitIn_of_isDigit first, Option.map_some,
        Option.bind_eq_bind, Option.bind_some] at more ⊢
      rw [more, Nat.ofDigitChars_cons, Nat.mul_comm]

theorem value_toDigits (n : Nat) : value 10 (Nat.toDigits 10 n) = some n := by
  rw [value, if_neg (by simp), extend_of_isDigit (isDigit_toDigits n),
    Nat.ofDigitChars_ten_toDigits]

end Numeral

namespace Word

theorem isDelimiter_of_isDigit {c : Char} (h : c.isDigit = true) : isDelimiter c = false := by
  unfold isDelimiter
  split <;> simp_all

theorem splitRadix_of_isDigit {digits : List Char} (h : ∀ c ∈ digits, c.isDigit = true) :
    splitRadix digits = (10, digits) := by
  unfold splitRadix
  split <;> simp_all

theorem startsWithDigit_of_isDigit {digits : List Char} (nonempty : digits ≠ [])
    (h : ∀ c ∈ digits, c.isDigit = true) : startsWithDigit digits = true := by
  cases digits with
  | nil => exact absurd rfl nonempty
  | cons c digits => exact h c List.mem_cons_self

theorem ofUnsigned_toDigits (n : Nat) : ofUnsigned (Nat.toDigits 10 n) = .integer n := by
  have digits := Numeral.isDigit_toDigits n
  have starts := startsWithDigit_of_isDigit Nat.toDigits_ne_nil digits
  simp only [ofUnsigned, starts, if_true, splitRadix_of_isDigit digits, Numeral.value_toDigits]

theorem toList_toString (n : Int) :
    (toString n).toList =
      if 0 ≤ n then Nat.toDigits 10 n.toNat else '-' :: Nat.toDigits 10 (-n).toNat := by
  rw [Int.toString_eq_repr, Int.repr_eq_if]
  split <;> simp

theorem ofChars_toString (n : Int) : ofChars (toString n).toList = .integer n := by
  rw [toList_toString]
  by_cases sign : 0 ≤ n
  · have digits := Numeral.isDigit_toDigits n.toNat
    have unsigned : ofChars (Nat.toDigits 10 n.toNat) = ofUnsigned (Nat.toDigits 10 n.toNat) := by
      cases written : Nat.toDigits 10 n.toNat with
      | nil => rfl
      | cons c cs =>
          have first := digits c (by simp [written])
          unfold ofChars
          split <;> simp_all
    rw [if_pos sign, unsigned, ofUnsigned_toDigits, Int.toNat_of_nonneg sign]
  · rw [if_neg sign, ofChars, ofUnsigned_toDigits, negate, Int.toNat_of_nonneg (by omega),
      Int.neg_neg]

theorem isDelimiter_toString (n : Int) : ∀ c ∈ (toString n).toList, isDelimiter c = false := by
  have digits (m : Nat) : ∀ c ∈ Nat.toDigits 10 m, isDelimiter c = false := fun c h =>
    isDelimiter_of_isDigit (Numeral.isDigit_toDigits m c h)
  rw [toList_toString]
  split
  · exact digits _
  · exact List.forall_mem_cons.mpr ⟨rfl, digits _⟩

theorem toString_ne_nil (n : Int) : (toString n).toList ≠ [] := by
  rw [toList_toString]
  split <;> simp

end Word

end Sexpr
