/-! # What can be wrong with a text

Each fault is a cause, with the data its message names. Where it happened is
not part of it.
-/

namespace Sexpr

/-- The reasons for which a text is refused. -/
inductive Fault where
  /-- The word `text` begins like a number but is none in the base it announces. -/
  | malformedInteger (radix : Nat) (text : String)
  /-- The text ends inside a string literal. -/
  | unterminatedString
  /-- The text ends inside a list, or right behind a bare word. -/
  | unexpectedEnd
  /-- A closing parenthesis with no list open. -/
  | unexpectedClosingParen
  /-- A list inside as many open lists as are allowed. -/
  | nestingTooDeep (limit : Nat)
  /-- A backslash followed by a character that makes no escape with it. -/
  | invalidEscapedChar (char : Char)
  deriving Repr, DecidableEq

def Fault.message : Fault → String
  | .malformedInteger radix text =>
      "invalid integer literal for base " ++ toString radix ++ ": '" ++ text ++ "'"
  | .unterminatedString => "unterminated string literal"
  | .unexpectedEnd => "unexpected end of input"
  | .unexpectedClosingParen => "unexpected closing parenthesis"
  | .nestingTooDeep limit => "lists nested deeper than " ++ toString limit ++ " levels"
  | .invalidEscapedChar char => "invalid escaped character '" ++ char.toString ++ "'"

end Sexpr
