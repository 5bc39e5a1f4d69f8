import Sexpr.Numeral
import Sexpr.Settings

/-! # The arguments of the command

Options may stand before and behind the file they are about, and each may be given
more than once. The arguments are taken one after the other, and whether they make
sense together is decided when all of them have been taken.
-/

namespace Sexpr.CommandLine

structure Options where
  /-- Print every item on one line. -/
  print : Bool
  /-- Print every item in its stacked form. -/
  pretty : Bool
  /-- Read under the strict settings. -/
  strict : Bool
  /-- The limit for the depth of lists, in place of the one of the settings. -/
  maxDepth : Option Nat
  deriving Repr, DecidableEq

def Options.settings (o : Options) : Settings :=
  let base := if o.strict then Settings.strict else Settings.lenient
  { base with maxDepth := o.maxDepth <|> base.maxDepth }

/-- What the arguments taken so far say. -/
structure Arguments where
  options : Options
  /-- The last limit was asked for without saying which. -/
  lacksDepth : Bool
  /-- The files named. -/
  paths : List String
  deriving Repr, DecidableEq

namespace Arguments

def nothing : Arguments := ⟨⟨false, false, false, none⟩, false, []⟩

/-- The greatest limit that can be asked for. -/
def greatestDepth : Nat := 4294967295

/-- The limit that an argument stands for: decimal digits, with one sign in
    front of them at most. -/
def depthOf (text : String) : Option Nat :=
  let value : Option Int :=
    match text.toList with
    | '-' :: digits => (Numeral.value 10 digits).map fun n => -(n : Int)
    | '+' :: digits => (Numeral.value 10 digits).map fun n => (n : Int)
    | digits => (Numeral.value 10 digits).map fun n => (n : Int)
  match value with
  | some (.ofNat n) => if n ≤ greatestDepth then some n else none
  | _ => none

/-- The value of an option that is written in one argument with its name. -/
def attached? (name argument : String) : Option String :=
  if (name ++ "=").toList.isPrefixOf argument.toList then
    some (String.ofList (argument.toList.drop (name.length + 1)))
  else none

/-- Is this argument the name of a file or the value of an option, and no option? -/
def isPlain (argument : String) : Bool :=
  argument = "-" || argument.toList.head? != some '-'

/-- Set a limit. It replaces the limit before, and makes good for one that lacked. -/
def setDepth (a : Arguments) (n : Nat) : Arguments :=
  { a with options := { a.options with maxDepth := some n }, lacksDepth := false }

/-- Ask for a limit without saying which. The limit before counts no more. -/
def lackDepth (a : Arguments) : Arguments :=
  { a with options := { a.options with maxDepth := none }, lacksDepth := true }

def addPaths (a : Arguments) (paths : List String) : Arguments :=
  { a with paths := a.paths ++ paths }

/-- The options that are either given or not. -/
def setFlag (a : Arguments) : String → Option Arguments
  | "--print" => some { a with options := { a.options with print := true } }
  | "--pretty" => some { a with options := { a.options with pretty := true } }
  | "--strict" => some { a with options := { a.options with strict := true } }
  | _ => none

/-- Take arguments one after the other. Behind two dashes all of them are files. A
    limit is refused at once if it cannot be read, but one that lacks altogether may
    still be given. -/
def take (a : Arguments) : List String → Option Arguments
  | [] => some a
  | "--" :: paths => some (a.addPaths paths)
  | ["--max-depth"] => some a.lackDepth
  | "--max-depth" :: next :: rest =>
      if isPlain next then (depthOf next).bind fun n => (a.setDepth n).take rest
      else a.lackDepth.take (next :: rest)
  | argument :: rest =>
      if isPlain argument then (a.addPaths [argument]).take rest
      else
        match attached? "--max-depth" argument with
        | some value => (depthOf value).bind fun n => (a.setDepth n).take rest
        | none => (a.setFlag argument).bind fun a => a.take rest

/-- The options, and the one file that they are about. -/
def complete (a : Arguments) : Option (Options × String) :=
  match a.lacksDepth, a.paths with
  | false, [path] => if path = "" then none else some (a.options, path)
  | _, _ => none

end Arguments

/-- What the command asks for: options, and exactly one file, whose name is not
    empty. -/
def ofArguments (arguments : List String) : Option (Options × String) :=
  (Arguments.nothing.take arguments).bind Arguments.complete

end Sexpr.CommandLine
