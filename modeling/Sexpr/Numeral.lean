/-! # Numerals

The value of a run of digits in a base up to sixteen, of any length. Letters
stand for the digits from ten on, in either case.
-/

namespace Sexpr.Numeral

def digitValue (c : Char) : Option Nat :=
  if c.isDigit then some (c.toNat - '0'.toNat)
  else if 'a' ≤ c ∧ c ≤ 'f' then some (c.toNat - 'a'.toNat + 10)
  else if 'A' ≤ c ∧ c ≤ 'F' then some (c.toNat - 'A'.toNat + 10)
  else none

/-- The value of a character as a digit in this base, if the base has it. -/
def digitIn (radix : Nat) (c : Char) : Option Nat :=
  (digitValue c).filter (· < radix)

/-- Read more digits behind ones worth `n`. -/
def extend (radix n : Nat) (digits : List Char) : Option Nat :=
  digits.foldlM (fun n c => (digitIn radix c).map (n * radix + ·)) n

/-- The value of a numeral. It has at least one digit, and nothing but digits
    of its base. -/
def value (radix : Nat) (digits : List Char) : Option Nat :=
  if digits.isEmpty then none else extend radix 0 digits

end Sexpr.Numeral
