import Sexpr.CommandLine

/-! # The program

Opens the file, and writes what the command line decided to report.
-/

namespace Sexpr

/-- The system's report of a failure: its own words, and its number for them. -/
def reportOf : IO.Error → String
  | .noFileOrDirectory _ code details
  | .inappropriateType _ code details
  | .permissionDenied _ code details
  | .invalidArgument _ code details
  | .resourceExhausted _ code details => details ++ " (os error " ++ toString code ++ ")"
  | error => toString error

/-- What opening the file at `path` gives. It is read at once, and a failure to
    read it is kept for the one who asks for its bytes. -/
def openFile (path : String) : IO (Except String ByteSource) := do
  match ← (IO.FS.Handle.mk path .read).toBaseIO with
  | .error error => return .error (reportOf error)
  | .ok handle =>
      match ← handle.readBinToEnd.toBaseIO with
      | .error error => return .ok ⟨[], some (reportOf error)⟩
      | .ok bytes => return .ok (.ofBytes bytes.toList)

end Sexpr

open Sexpr CommandLine in
/-- Report on the file that the arguments name. -/
def main (arguments : List String) : IO UInt32 := do
  let report : Report ←
    match ofArguments arguments with
    | some (o, path) => pure (reportOn o path (← openFile path))
    | none => pure Report.usage
  (← IO.getStdout).putStr report.output
  (← IO.getStderr).putStr report.errors
  return report.code.toUInt32
