import Sexpr.CommandLine.Arguments
import Sexpr.Read
import Sexpr.Tree.Census
import Sexpr.Tree.Printer

/-! # The command line

The command reads one file and says how many lists and atoms it holds; on demand
it prints every item of the file as well. What it will write, and its exit code,
are computed here from its arguments and from what opening the file gave.
-/

namespace Sexpr.CommandLine

structure Report where
  code : Nat
  output : String
  errors : String
  deriving Repr, DecidableEq

namespace Report

/-- The text of an error with the errors that caused it, outermost first. -/
def explain (error : String) (causes : List String) : String :=
  let head := "Error: " ++ error ++ "\n"
  match causes with
  | [] => head
  | [cause] => head ++ "\nCaused by:\n    " ++ cause ++ "\n"
  | causes =>
      head ++ "\nCaused by:\n" ++
        String.join (causes.zipIdx.map fun (cause, i) =>
          "    " ++ toString i ++ ": " ++ cause ++ "\n")

def usage : Report :=
  ⟨2, "", "usage: sexpr [--print] [--pretty] [--strict] [--max-depth N] [--] FILE\n"⟩

def failed (errors : String) : Report := ⟨1, "", errors⟩

/-- There was no text. -/
def ofInputError (error : InputError) : Report :=
  failed (explain error.message
    (match error with
    | .io report => [error.message, report]
    | _ => [error.message]))

/-- Each item as the options ask for, on lines of its own. -/
def items (o : Options) (items : List Tree) : String :=
  if o.pretty then String.join (items.map fun t => t.pretty ++ "\n")
  else if o.print then String.join (items.map fun t => t.render ++ "\n")
  else ""

/-- The last line: how many lists and atoms there are. The file itself is no list. -/
def counts (t : Tree) : String :=
  ";; count_lists = " ++ toString (t.census.lists - 1) ++
    ", count_atoms = " ++ toString t.census.atoms ++ "\n"

def ofResult (o : Options) : Except ReadError Tree → Report
  | .ok t => ⟨0, items o (t.items?.getD []) ++ counts t, ""⟩
  | .error (.syntactic error) => failed (error.render ++ "\n")
  | .error (.input error) => ofInputError error

end Report

/-- The report on a file, from what opening it gave. A file that cannot be opened
    is reported with its name, unless there are restrictions to read under. -/
def reportOn (o : Options) (path : String) (opened : Except String ByteSource) : Report :=
  if o.settings = .lenient then
    .ofResult o (parseFile path opened)
  else
    match opened with
    | .error report => .failed (Report.explain report [])
    | .ok source => .ofResult o (parseWith o.settings (.bytes source) (some path))

/-- The report on these arguments. Files are opened by `openPath`. -/
def run (openPath : String → Except String ByteSource) (arguments : List String) : Report :=
  match ofArguments arguments with
  | some (o, path) => reportOn o path (openPath path)
  | none => .usage

end Sexpr.CommandLine
