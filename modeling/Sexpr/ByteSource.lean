import Sexpr.InputError
import Sexpr.Utf8

/-! # Text from bytes that arrive in chunks

Each read of a source gives one chunk of bytes. An empty chunk is the end of the
input: nothing behind it is read. Behind the last chunk the input ends as well,
unless the source fails there.
-/

namespace Sexpr

/-- The chunks that reading gives one after the other, and the report of the
    failure that comes after them, if one does. -/
structure ByteSource where
  chunks : List (List UInt8)
  failure : Option String
  deriving Repr, DecidableEq

/-- The characters that came out of a source, and why no more did if it was not
    for the end of the input. -/
structure Decoded where
  chars : List Char
  error : Option InputError
  deriving Repr, DecidableEq

namespace ByteSource

def ofBytes (bytes : List UInt8) : ByteSource := ⟨[bytes], none⟩

/-- What is left to say at the end of the input. An unfinished character is
    invalid there. -/
def atEnd (d : Utf8.Decoder) : Decoded :=
  ⟨d.text, if d.pending.isEmpty then none else some (.invalidUtf8 d.pending)⟩

/-- Decode the chunks still to be read. A failed read ends the input even inside
    a character, and then the failure is what is reported. -/
def decodeFrom (failure : Option String) : Utf8.Decoder → List (List UInt8) → Decoded
  | d, [] =>
      match failure with
      | some report => ⟨d.text, some (.io report)⟩
      | none => atEnd d
  | d, [] :: _ => atEnd d
  | d, chunk :: chunks =>
      match d.feed chunk with
      | (d, none) => decodeFrom failure d chunks
      | (d, some refused) => ⟨d.text, some (.invalidUtf8 refused)⟩

def decode (s : ByteSource) : Decoded :=
  decodeFrom s.failure .start s.chunks

/-- The text of a source that ends without a failure. -/
def readAll (s : ByteSource) : Except InputError String :=
  match s.decode with
  | ⟨chars, none⟩ => .ok (String.ofList chars)
  | ⟨_, some error⟩ => .error error

end ByteSource

end Sexpr
