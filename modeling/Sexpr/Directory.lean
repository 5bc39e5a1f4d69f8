import Sexpr.ByteSource

/-! # Opening files by path

A directory of plain files, and what a path opens in it. A path is taken apart
at its slashes and walked component by component. Outside the directory nothing
but directories can be opened.
-/

namespace Sexpr

inductive OpenError where
  | noEntry
  | notDirectory
  | nameTooLong
  | nulByte
  deriving Repr, DecidableEq

def OpenError.report : OpenError → String
  | .noEntry => "No such file or directory (os error 2)"
  | .notDirectory => "Not a directory (os error 20)"
  | .nameTooLong => "File name too long (os error 36)"
  | .nulByte => "file name contained an unexpected NUL byte"

/-- Plain files by name, each with its bytes. -/
structure Directory where
  files : List (String × List UInt8)
  deriving Repr

namespace Directory

/-- What a path leads to. -/
inductive Place where
  /-- The directory itself. -/
  | here
  /-- A directory that this one does not show. -/
  | elsewhere
  | file (bytes : List UInt8)
  deriving Repr, DecidableEq

/-- No component of a path may have more bytes. -/
def nameLimit : Nat := 255

/-- No path may have more bytes. -/
def pathLimit : Nat := 4095

/-- The place that one component leads to. -/
def enter (dir : Directory) (place : Place) (name : String) : Except OpenError Place :=
  match place with
  | .file _ => .error .notDirectory
  | place =>
      if name = "" ∨ name = "." then .ok place
      else if name = ".." then .ok .elsewhere
      else if name.utf8ByteSize > nameLimit then .error .nameTooLong
      else
        match place, dir.files.lookup name with
        | .here, some bytes => .ok (.file bytes)
        | _, _ => .error .noEntry

def components (path : String) : List String :=
  (path.toList.splitOn '/').map String.ofList

/-- The place that a path leads to. One that begins with a slash begins outside. -/
def find (dir : Directory) (path : String) : Except OpenError Place :=
  if '\x00' ∈ path.toList then .error .nulByte
  else if path = "" then .error .noEntry
  else if path.utf8ByteSize > pathLimit then .error .nameTooLong
  else
    (components path).foldlM dir.enter (if path.toList.head? = some '/' then .elsewhere else .here)

def unreadable : String := "Is a directory (os error 21)"

/-- What opening a path gives. A directory can be opened, and fails to be read. -/
def openPath (dir : Directory) (path : String) : Except String ByteSource :=
  match dir.find path with
  | .error error => .error error.report
  | .ok (.file bytes) => .ok (.ofBytes bytes)
  | .ok _ => .ok ⟨[], some unreadable⟩

end Directory

end Sexpr
