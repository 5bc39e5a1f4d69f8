import Sexpr.ByteSource
import Sexpr.Parse

/-! # From texts, byte sources and files to trees

A source is read as a whole before anything is parsed. So an input error is
reported even where the bytes before it hold a syntax error.
-/

namespace Sexpr

inductive Source where
  | text (content : String)
  | bytes (source : ByteSource)
  deriving Repr, DecidableEq

def Source.content : Source → Except InputError String
  | .text content => .ok content
  | .bytes source => source.readAll

inductive ReadError where
  | input (error : InputError)
  | syntactic (error : SyntaxError)
  deriving Repr, DecidableEq

def ReadError.message : ReadError → String
  | .input error => error.message
  | .syntactic error => error.render

def Cursor.ofSource (source : Source) (fileName : Option String) : Except InputError Cursor := do
  let text ← source.content
  .ok (.ofText text fileName)

def parseWith (settings : Settings) (source : Source) (fileName : Option String) :
    Except ReadError Tree :=
  match Cursor.ofSource source fileName with
  | .error error => .error (.input error)
  | .ok cur => (cur.parse settings).1.mapError .syntactic

/-- The tree of a source, without any restriction. -/
def parse (source : Source) (fileName : Option String) : Except ReadError Tree :=
  parseWith .lenient source fileName

/-- The tree of a text, without any restriction. -/
def parseText (text : String) (fileName : Option String) : Except SyntaxError Tree :=
  ((Cursor.ofText text fileName).parse .lenient).1

/-- The tree of the file at `path`, without any restriction. What opening the
    file gave is its bytes, or the system's report that it could not be opened. -/
def parseFile (path : String) (opened : Except String ByteSource) : Except ReadError Tree :=
  match opened with
  | .error report => .error (.input (.file path report))
  | .ok source => parse (.bytes source) (some path)

end Sexpr
