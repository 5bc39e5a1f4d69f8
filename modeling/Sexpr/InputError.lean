import Sexpr.Quoted

/-! # What keeps a text from being read

A text that comes as bytes may fail to arrive, or may not be a text. The wording
of a failed read is that of the system that reported it.
-/

namespace Sexpr

/-- The reasons for which there is no text. -/
inductive InputError where
  /-- A read failed. -/
  | io (report : String)
  /-- The file could not be opened. -/
  | file (path : String) (report : String)
  /-- The bytes are not UTF-8, and these are the first ones that are not. -/
  | invalidUtf8 (bytes : List UInt8)
  deriving Repr, DecidableEq

def InputError.message : InputError → String
  | .io report => "IO error: " ++ report
  | .file path report => Quoted.render path ++ ": " ++ report
  | .invalidUtf8 bytes =>
      "invalid UTF-8 byte sequence [" ++ ", ".intercalate (bytes.map toString) ++ "]"

end Sexpr
