import Sexpr.Machine

/-! # Reading token by token

A reader is a machine whose mode and buffers are one thing, the token that it is in
the middle of: there is no letter without a word, and no text without a literal. What
is proved about reading is proved of readers.
-/

namespace Sexpr

/-- What a reader is in the middle of. -/
inductive Token where
  /-- A bare word with these letters. With none, the reader stands between items. -/
  | word (letters : List Char)
  /-- A comment, which runs to the end of its line. -/
  | comment
  /-- A string literal whose text so far is given. -/
  | literal (body : List Char)
  /-- The character behind a backslash in such a literal. -/
  | escape (body : List Char)
  deriving Repr, DecidableEq

structure Reader where
  token : Token
  /-- The lists around the innermost open one. -/
  frames : Frames
  /-- The items of the innermost open list. -/
  items : List Tree
  deriving Repr, DecidableEq

namespace Reader

/-- Nothing read, and no list open but the text itself. -/
def start : Reader := ⟨.word [], .empty, []⟩

/-- The items of a list once a bare word behind them has ended. -/
def endWord (letters : List Char) (items : List Tree) : Except Fault (List Tree) :=
  if letters.isEmpty then .ok items
  else
    match Word.ofChars letters.reverse with
    | .integer n => .ok (.integer n :: items)
    | .symbol => .ok (.symbol (String.ofList letters.reverse) :: items)
    | .malformed radix => .error (.malformedInteger radix (String.ofList letters.reverse))

/-- Take a delimiter between items. -/
def delimit (settings : Settings) (frames : Frames) (items : List Tree) :
    Char → Except Fault Reader
  | ';' => .ok ⟨.comment, frames, items⟩
  | '"' => .ok ⟨.literal [], frames, items⟩
  | '(' => do
      Machine.checkDepth settings frames
      .ok ⟨.word [], frames.push items, []⟩
  | ')' =>
      match frames.pop? with
      | some (outer, frames) => .ok ⟨.word [], frames, .list items.reverse :: outer⟩
      | none => .error .unexpectedClosingParen
  | _ => .ok ⟨.word [], frames, items⟩

def feed (settings : Settings) (r : Reader) (c : Char) : Except Fault Reader :=
  match r.token with
  | .comment => .ok (if c = '\n' then { r with token := .word [] } else r)
  | .word letters =>
      if Word.isDelimiter c then do
        let items ← endWord letters r.items
        delimit settings r.frames items c
      else
        .ok { r with token := .word (c :: letters) }
  | .literal body =>
      match c with
      | '\\' => .ok { r with token := .escape body }
      | '"' => .ok ⟨.word [], r.frames, .string (String.ofList body.reverse) :: r.items⟩
      | _ => .ok { r with token := .literal (c :: body) }
  | .escape body => do
      let body ← Machine.escape settings body c
      .ok { r with token := .literal body }

def run (settings : Settings) : Reader → List Char → Except (Fault × List Char) Reader
  | r, [] => .ok r
  | r, c :: rest =>
      match r.feed settings c with
      | .ok r => run settings r rest
      | .error fault => .error (fault, rest)

/-- A text in two parts is taken part by part; a fault in the first one leaves
    the second one untouched. -/
theorem run_append (settings : Settings) (r : Reader) (cs ds : List Char) :
    r.run settings (cs ++ ds) =
      match r.run settings cs with
      | .ok r => r.run settings ds
      | .error (fault, rest) => .error (fault, rest ++ ds) := by
  induction cs generalizing r with
  | nil => rfl
  | cons c cs ih =>
      simp only [List.cons_append, run]
      cases r.feed settings c with
      | ok r => exact ih r
      | error fault => rfl

/-- The tree of the whole text, when it ends here: the list of its items. -/
def finish (r : Reader) : Except Fault Tree :=
  match r.token with
  | .literal _ | .escape _ => .error .unterminatedString
  | .word (_ :: _) => .error .unexpectedEnd
  | .word [] | .comment =>
      if r.frames.lists.isEmpty then .ok (.list r.items.reverse) else .error .unexpectedEnd

end Reader

end Sexpr
