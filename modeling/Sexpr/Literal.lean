/-! # String literals

Inside the quotes of a string literal a backslash makes an escape with the
character behind it. Four escapes have a meaning, and exactly the characters
they mean are written as escapes.
-/

namespace Sexpr.Literal

/-- The character that a backslash and `c` mean together, where they mean one. -/
def escaped? : Char → Option Char
  | '"' => some '"'
  | '\\' => some '\\'
  | 'n' => some '\n'
  | 't' => some '\t'
  | _ => none

/-- How a character is written inside quotes. -/
def encodeChar : Char → List Char
  | '"' => ['\\', '"']
  | '\\' => ['\\', '\\']
  | '\n' => ['\\', 'n']
  | '\t' => ['\\', 't']
  | c => [c]

def encode (text : List Char) : List Char :=
  text.flatMap encodeChar

def render (text : String) : String :=
  "\"" ++ String.ofList (encode text.toList) ++ "\""

end Sexpr.Literal
