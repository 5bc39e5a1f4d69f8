/-! # Decoding UTF-8

A character is one to four bytes. The first one tells how many there are, and the
range of the second one leaves out overlong forms, surrogates, and everything
above the last character. A decoder takes one byte at a time, so that it does not
matter where the bytes of a character are cut apart. It refuses a run of bytes as
soon as no character begins with it.
-/

namespace Sexpr.Utf8

/-- What a run of bytes is, when a character is to begin with its first byte. -/
inductive Extent where
  /-- All bytes of this character. -/
  | complete (c : Char)
  /-- Some of the bytes of a character, and not all. -/
  | unfinished
  /-- Bytes that no character begins with. -/
  | invalid
  deriving Repr, DecidableEq

/-- May this byte be any but the first one of a character? -/
def isTail (b : UInt8) : Bool :=
  0x80 ≤ b.toNat && b.toNat ≤ 0xBF

/-- May `b` be the second byte of a character whose first one is `lead`? -/
def isSecond (lead b : UInt8) : Bool :=
  match lead.toNat with
  | 0xE0 => 0xA0 ≤ b.toNat && b.toNat ≤ 0xBF
  | 0xED => 0x80 ≤ b.toNat && b.toNat ≤ 0x9F
  | 0xF0 => 0x90 ≤ b.toNat && b.toNat ≤ 0xBF
  | 0xF4 => 0x80 ≤ b.toNat && b.toNat ≤ 0x8F
  | _ => isTail b

/-- How many bytes a character has whose first byte is `lead`; none if no
    character begins with it. -/
def lengthOf (lead : UInt8) : Nat :=
  let a := lead.toNat
  if a < 0x80 then 1
  else if 0xC2 ≤ a ∧ a < 0xE0 then 2
  else if 0xE0 ≤ a ∧ a < 0xF0 then 3
  else if 0xF0 ≤ a ∧ a < 0xF5 then 4
  else 0

def tailBits (b : UInt8) : Nat :=
  b.toNat % 64

/-- What a run of bytes is, as the beginning of a character. -/
def extent : List UInt8 → Extent
  | [] => .unfinished
  | [a] =>
      match lengthOf a with
      | 0 => .invalid
      | 1 => .complete (Char.ofNat a.toNat)
      | _ => .unfinished
  | [a, b] =>
      if !isSecond a b then .invalid
      else
        match lengthOf a with
        | 0 | 1 => .invalid
        | 2 => .complete (Char.ofNat (a.toNat % 32 * 64 + tailBits b))
        | _ => .unfinished
  | [a, b, c] =>
      if !(isSecond a b && isTail c) then .invalid
      else
        match lengthOf a with
        | 0 | 1 | 2 => .invalid
        | 3 => .complete (Char.ofNat ((a.toNat % 16 * 64 + tailBits b) * 64 + tailBits c))
        | _ => .unfinished
  | [a, b, c, d] =>
      if isSecond a b && isTail c && isTail d && lengthOf a == 4 then
        .complete
          (Char.ofNat (((a.toNat % 8 * 64 + tailBits b) * 64 + tailBits c) * 64 + tailBits d))
      else .invalid
  | _ => .invalid

/-- The characters decoded so far, newest first, and the bytes of one that is
    not finished yet. -/
structure Decoder where
  chars : List Char
  pending : List UInt8
  deriving Repr, DecidableEq

namespace Decoder

def start : Decoder := ⟨[], []⟩

/-- Take one byte, or refuse. What is refused are the bytes that a character
    begins with, as many as there are, or else this one byte. -/
def step (d : Decoder) (b : UInt8) : Except (List UInt8) Decoder :=
  match extent (d.pending ++ [b]) with
  | .complete c => .ok ⟨c :: d.chars, []⟩
  | .unfinished => .ok ⟨d.chars, d.pending ++ [b]⟩
  | .invalid => .error (if d.pending.isEmpty then [b] else d.pending)

/-- Take all these bytes. The first refusal ends it, and comes with the decoder
    as it stood there. -/
def feed : Decoder → List UInt8 → Decoder × Option (List UInt8)
  | d, [] => (d, none)
  | d, b :: bytes =>
      match d.step b with
      | .ok d => feed d bytes
      | .error refused => (d, some refused)

/-- Bytes may be cut apart anywhere: those behind the cut are taken where the
    ones before it left off. -/
theorem feed_append (d : Decoder) (bytes more : List UInt8) :
    d.feed (bytes ++ more) =
      match d.feed bytes with
      | (d, none) => d.feed more
      | (d, some refused) => (d, some refused) := by
  induction bytes generalizing d with
  | nil => rfl
  | cons b bytes ih =>
      simp only [List.cons_append, feed]
      cases d.step b with
      | ok d => exact ih d
      | error refused => rfl

def text (d : Decoder) : List Char :=
  d.chars.reverse

end Decoder

end Sexpr.Utf8
