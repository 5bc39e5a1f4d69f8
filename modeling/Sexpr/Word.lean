import Sexpr.Numeral

/-! # Bare words

A bare word runs up to the next delimiter. It is an integer, a symbol, or a word
that begins like an integer and is none. One minus sign may stand in front of an
integer, and `0x`, `0o` or `0b` in front of its digits says that they are in
base 16, 8 or 2.
-/

namespace Sexpr

/-- What a bare word stands for. -/
inductive Word where
  | integer (value : Int)
  | symbol
  /-- It begins with a digit and is no numeral in the base it announces. -/
  | malformed (radix : Nat)
  deriving Repr, DecidableEq

namespace Word

/-- Does this character end a bare word? -/
def isDelimiter : Char → Bool
  | ' ' | '\t' | '\n' | '(' | ')' | ';' | '"' => true
  | _ => false

/-- The base that an unsigned word announces, and what follows the announcement. -/
def splitRadix : List Char → Nat × List Char
  | '0' :: 'x' :: digits => (16, digits)
  | '0' :: 'o' :: digits => (8, digits)
  | '0' :: 'b' :: digits => (2, digits)
  | digits => (10, digits)

def startsWithDigit : List Char → Bool
  | c :: _ => c.isDigit
  | [] => false

/-- What a word without a sign stands for. -/
def ofUnsigned (word : List Char) : Word :=
  if startsWithDigit word then
    let (radix, digits) := splitRadix word
    match Numeral.value radix digits with
    | some n => .integer n
    | none => .malformed radix
  else
    .symbol

def negate : Word → Word
  | .integer n => .integer (-n)
  | w => w

/-- What a word stands for. Only the first minus sign is a sign: with a second
    one the word does not begin with a digit, and is a symbol. -/
def ofChars : List Char → Word
  | '-' :: unsigned => (ofUnsigned unsigned).negate
  | word => ofUnsigned word

end Word

end Sexpr
