import Sexpr.Visible

/-! # Names in quotes

A name in a message stands in double quotes. Double quotes and backslashes in it
have a backslash before them, and what could not be seen is written as an escape,
so that no name can be mistaken for another one.
-/

namespace Sexpr.Quoted

def byCodePoint (c : Char) : String :=
  "\\u\x7b" ++ String.ofList (Nat.toDigits 16 c.toNat) ++ "\x7d"

/-- How a character of a name is written. -/
def encodeChar (c : Char) : String :=
  match c with
  | '\x00' => "\\0"
  | '\t' => "\\t"
  | '\n' => "\\n"
  | '\r' => "\\r"
  | '"' => "\\\""
  | '\\' => "\\\\"
  | _ => if Visible.isVisible c then c.toString else byCodePoint c

def render (name : String) : String :=
  "\"" ++ String.join (name.toList.map encodeChar) ++ "\""

end Sexpr.Quoted
