import Mathlib.Data.List.Basic
import Sexpr.ByteSource
import Sexpr.Proofs.Encodings

/-! # The text of a byte source

What comes out of a source is settled by the bytes that arrive before it ends and by
whether it ends in a failure. Both sides of this are here: what strict decoding of
some bytes gives, said of all these bytes at once, and the decoder, which takes them
chunk by chunk and byte by byte.
-/

namespace Sexpr

namespace Utf8

/-! ## Strict decoding -/

def encode (text : List Char) : List UInt8 :=
  text.flatMap String.utf8EncodeChar

/-- These bytes begin the encoding of some character, and no more of the rest does. -/
structure LongestBeginning (rest bytes : List UInt8) : Prop where
  front : bytes <+: rest
  begins : Begins bytes
  longest : ∀ more, more <+: rest → Begins more → more.length ≤ bytes.length

/-- What there is to say about the bytes behind the last whole character, when the
    input then ends or, with a report, fails. -/
inductive Verdict : List UInt8 → Option String → Option InputError → Prop where
  /-- The input ends behind a whole character. -/
  | clean : Verdict [] none none
  /-- All bytes so far could have become a text. -/
  | failed {rest report} (begins : Begins rest) :
      Verdict rest (some report) (some (.io report))
  /-- The input ends inside a character. -/
  | cut {rest} (nonempty : rest ≠ []) (begins : Begins rest) :
      Verdict rest none (some (.invalidUtf8 rest))
  /-- Whatever follows, these bytes are no text. -/
  | invalid {rest bytes failure} (longest : LongestBeginning rest bytes) (part : bytes ≠ rest) :
      Verdict rest failure (some (.invalidUtf8 (if bytes = [] then rest.take 1 else bytes)))

/-- What strict decoding of these bytes gives: the characters up to the first place
    where no character stands, and what there is to say about what stands there. -/
def Decodes (bytes : List UInt8) (failure : Option String) (decoded : Decoded) : Prop :=
  ∃ rest, bytes = encode decoded.chars ++ rest ∧
    (∀ c, ¬ String.utf8EncodeChar c <+: rest) ∧ Verdict rest failure decoded.error

@[simp] theorem encode_nil : encode [] = [] := rfl

@[simp] theorem encode_cons (c : Char) (text : List Char) :
    encode (c :: text) = String.utf8EncodeChar c ++ encode text := rfl

@[simp] theorem encode_append (text more : List Char) :
    encode (text ++ more) = encode text ++ encode more :=
  List.flatMap_append

theorem begins_nil : Begins [] :=
  ⟨'a', List.nil_prefix⟩

/-! ## There is one way to decode -/

theorem LongestBeginning.unique {rest bytes others : List UInt8}
    (h : LongestBeginning rest bytes) (h' : LongestBeginning rest others) : bytes = others := by
  have shorter : bytes.length ≤ others.length := h'.longest _ h.front h.begins
  have longer : others.length ≤ bytes.length := h.longest _ h'.front h'.begins
  exact (List.prefix_of_prefix_length_le h.front h'.front shorter).eq_of_length_le longer

theorem LongestBeginning.whole {rest bytes : List UInt8} (h : LongestBeginning rest bytes)
    (begins : Begins rest) : bytes = rest :=
  h.front.eq_of_length_le (h.longest rest (List.prefix_refl rest) begins)

theorem Verdict.unique {rest : List UInt8} {failure : Option String}
    {error other : Option InputError} (h : Verdict rest failure error)
    (h' : Verdict rest failure other) : error = other := by
  cases h with
  | clean =>
      cases h' with
      | clean => rfl
      | cut nonempty => exact absurd rfl nonempty
      | invalid longest part => exact absurd (longest.whole begins_nil) part
  | failed begins =>
      cases h' with
      | failed => rfl
      | invalid longest part => exact absurd (longest.whole begins) part
  | cut nonempty begins =>
      cases h' with
      | clean => exact absurd rfl nonempty
      | cut => rfl
      | invalid longest part => exact absurd (longest.whole begins) part
  | invalid longest part =>
      cases h' with
      | clean => exact absurd (longest.whole begins_nil) part
      | failed begins | cut _ begins => exact absurd (longest.whole begins) part
      | invalid longest' => rw [longest.unique longest']

theorem encode_append_inj {text others : List Char} {rest rest' : List UInt8}
    (h : encode text ++ rest = encode others ++ rest')
    (stuck : ∀ c, ¬ String.utf8EncodeChar c <+: rest)
    (stuck' : ∀ c, ¬ String.utf8EncodeChar c <+: rest') : text = others ∧ rest = rest' := by
  induction text generalizing others with
  | nil =>
      -- A character more in the other text would stand where none stands.
      cases others with
      | nil => exact ⟨rfl, h⟩
      | cons d others =>
          refine absurd ?_ (stuck d)
          rw [encode_nil, List.nil_append, encode_cons, List.append_assoc] at h
          exact ⟨_, h.symm⟩
  | cons c text ih =>
      cases others with
      | nil =>
          refine absurd ?_ (stuck' c)
          rw [encode_nil, List.nil_append, encode_cons, List.append_assoc] at h
          exact ⟨_, h⟩
      | cons d others =>
          rw [encode_cons, encode_cons, List.append_assoc, List.append_assoc] at h
          have left := List.prefix_append (String.utf8EncodeChar c) (encode text ++ rest)
          obtain rfl : c = d := by
            rcases List.prefix_or_prefix_of_prefix left ⟨_, h.symm⟩ with front | front
            · exact eq_of_encoding_begins front
            · exact (eq_of_encoding_begins front).symm
          obtain ⟨rfl, rfl⟩ := ih (List.append_cancel_left h)
          exact ⟨rfl, rfl⟩

theorem Decodes.unique {bytes : List UInt8} {failure : Option String} {decoded other : Decoded}
    (h : Decodes bytes failure decoded) (h' : Decodes bytes failure other) : decoded = other := by
  obtain ⟨rest, whole, stuck, verdict⟩ := h
  obtain ⟨rest', whole', stuck', verdict'⟩ := h'
  obtain ⟨same, rfl⟩ := encode_append_inj (whole.symm.trans whole') stuck stuck'
  cases decoded
  cases other
  simp only [Decoded.mk.injEq]
  exact ⟨same, verdict.unique verdict'⟩

/-! ## The decoder -/

namespace Decoder

/-- The decoder has taken just these bytes: those of whole characters, and behind them
    some of one that is not finished. -/
structure Took (d : Decoder) (bytes : List UInt8) : Prop where
  whole : bytes = encode d.text ++ d.pending
  unfinished : extent d.pending = .unfinished

theorem took_start : start.Took [] := ⟨rfl, rfl⟩

inductive Stops (d : Decoder) : List UInt8 → Option (List UInt8) → Prop where
  | atEnd : Stops d [] none
  | refused {b rest} (invalid : extent (d.pending ++ [b]) = .invalid) :
      Stops d (b :: rest) (some (if d.pending = [] then [b] else d.pending))

/-- A byte completes a character, or is kept, or is refused. -/
theorem Took.step_or_stops {d : Decoder} {before : List UInt8} (h : d.Took before) (b : UInt8) :
    (∃ d', d.step b = .ok d' ∧ d'.Took (before ++ [b])) ∨
      ∃ refused, d.step b = .error refused ∧ ∀ rest, d.Stops (b :: rest) (some refused) := by
  cases judged : extent (d.pending ++ [b]) with
  | complete c =>
      refine .inl ⟨⟨c :: d.chars, []⟩, by simp only [step, judged], ?_, rfl⟩
      simp [h.whole, text, ← extent_eq_complete_iff.mp judged]
  | unfinished =>
      refine .inl ⟨⟨d.chars, d.pending ++ [b]⟩, by simp only [step, judged], ?_, judged⟩
      simp [h.whole, text]
  | invalid =>
      refine .inr ⟨if d.pending = [] then [b] else d.pending, ?_, fun rest => .refused judged⟩
      simp only [step, judged, List.isEmpty_iff]

theorem Took.feed {d : Decoder} {before : List UInt8} (h : d.Took before) (bytes : List UInt8) :
    ∃ taken rest, bytes = taken ++ rest ∧ (d.feed bytes).1.Took (before ++ taken) ∧
      (d.feed bytes).1.Stops rest (d.feed bytes).2 := by
  induction bytes generalizing d before with
  | nil => exact ⟨[], [], rfl, by simpa [Decoder.feed] using h, .atEnd⟩
  | cons b bytes ih =>
      rcases h.step_or_stops b with ⟨d', stepped, took⟩ | ⟨refused, stepped, stops⟩
      · obtain ⟨taken, rest, rfl, further, stops⟩ := ih took
        refine ⟨b :: taken, rest, rfl, ?_, ?_⟩
        · simpa [Decoder.feed, stepped] using further
        · simpa [Decoder.feed, stepped] using stops
      · refine ⟨[], b :: bytes, rfl, ?_, ?_⟩
        · simpa [Decoder.feed, stepped] using h
        · simpa [Decoder.feed, stepped] using stops bytes

/-- Behind the bytes taken stands no further character, and a verdict can be given on
    them: what is pending is the longest beginning of one. -/
theorem Stops.stuck {d : Decoder} {before rest : List UInt8} {refused : Option (List UInt8)}
    (h : d.Stops rest refused) (took : d.Took before) (c : Char) :
    ¬ String.utf8EncodeChar c <+: d.pending ++ rest := by
  have within := no_encoding_within took.unfinished c
  cases h with
  | atEnd => rwa [List.append_nil]
  | @refused b rest invalid =>
      -- An encoding either ends within the pending bytes, and then they would have been
      -- a character before, or it begins with the byte that no encoding goes on with.
      intro front
      have next : d.pending ++ [b] <+: d.pending ++ b :: rest := ⟨rest, by simp⟩
      rcases List.prefix_or_prefix_of_prefix front next with short | long
      · rcases List.prefix_concat_iff.mp short with whole | short
        · exact extent_eq_invalid_iff.mp invalid ⟨c, whole ▸ List.prefix_refl _⟩
        · exact within short
      · exact extent_eq_invalid_iff.mp invalid ⟨c, long⟩

theorem longestBeginning_of_invalid {pending : List UInt8} {b : UInt8}
    (begins : Begins pending) (invalid : extent (pending ++ [b]) = .invalid)
    (rest : List UInt8) : LongestBeginning (pending ++ b :: rest) pending := by
  refine ⟨List.prefix_append _ _, begins, ?_⟩
  intro more front moreBegins
  apply Nat.le_of_not_lt
  intro longer
  have next : pending ++ [b] <+: pending ++ b :: rest := ⟨rest, by simp⟩
  have size : (pending ++ [b]).length ≤ more.length := by
    rw [List.length_append]
    exact longer
  obtain ⟨c, whole⟩ := moreBegins
  have inside : pending ++ [b] <+: more := List.prefix_of_prefix_length_le next front size
  exact extent_eq_invalid_iff.mp invalid ⟨c, inside.trans whole⟩

end Decoder

end Utf8

namespace ByteSource

open Utf8

/-! ## Sources -/

def received (s : ByteSource) : List UInt8 :=
  (s.chunks.takeWhile fun chunk => !chunk.isEmpty).flatten

def ending (s : ByteSource) : Option String :=
  if [] ∈ s.chunks then none else s.failure

/-- What is said of a source in the end, once the decoder has stopped. -/
def conclude (failure : Option String) : Decoder × Option (List UInt8) → Decoded
  | (d, some refused) => ⟨d.text, some (.invalidUtf8 refused)⟩
  | (d, none) =>
      match failure with
      | some report => ⟨d.text, some (.io report)⟩
      | none => atEnd d

/-- Chunk by chunk the decoder takes what it takes of all bytes at once. -/
theorem decodeFrom_eq (failure : Option String) (d : Decoder) (chunks : List (List UInt8)) :
    decodeFrom failure d chunks =
      conclude (if [] ∈ chunks then none else failure)
        (d.feed (chunks.takeWhile fun chunk => !chunk.isEmpty).flatten) := by
  induction chunks generalizing d with
  | nil => cases failure <;> rfl
  | cons chunk chunks ih =>
      cases chunk with
      | nil => rfl
      | cons b bytes =>
          simp only [decodeFrom, List.takeWhile_cons, List.isEmpty_cons, Bool.not_false, if_true,
            List.flatten_cons, Decoder.feed_append, List.mem_cons, reduceCtorEq, false_or]
          cases d.feed (b :: bytes) with
          | mk d refused =>
              cases refused with
              | none => exact ih d
              | some refused => rfl

theorem decode_eq_conclude (s : ByteSource) :
    s.decode = conclude s.ending (Decoder.start.feed s.received) :=
  decodeFrom_eq _ _ _

theorem conclude_decodes (failure : Option String) (bytes : List UInt8) :
    Decodes bytes failure (conclude failure (Decoder.start.feed bytes)) := by
  obtain ⟨taken, rest, whole, took, stops⟩ := Decoder.took_start.feed bytes
  generalize Decoder.start.feed bytes = stop at took stops ⊢
  obtain ⟨d, refused⟩ := stop
  dsimp only at took stops
  have begins := begins_of_unfinished took.unfinished
  have split : bytes = encode d.text ++ (d.pending ++ rest) := by
    rw [whole, ← List.append_assoc, ← took.whole, List.nil_append]
  have stuck := stops.stuck took
  cases stops with
  | @refused b rest invalid =>
      refine ⟨_, split, stuck, ?_⟩
      have longest := Decoder.longestBeginning_of_invalid begins invalid rest
      have verdict := @Verdict.invalid _ _ failure longest (by simp)
      by_cases nothing : d.pending = [] <;> simpa [conclude, nothing] using verdict
  | atEnd =>
      rw [List.append_nil] at split stuck
      cases failure with
      | some report => exact ⟨_, split, stuck, .failed begins⟩
      | none =>
          refine ⟨_, split, stuck, ?_⟩
          by_cases nothing : d.pending = []
          · simpa [conclude, atEnd, nothing] using Verdict.clean
          · simpa [conclude, atEnd, nothing] using Verdict.cut nothing begins

theorem decode_eq_iff {s : ByteSource} {decoded : Decoded} :
    s.decode = decoded ↔ Decodes s.received s.ending decoded := by
  have decodes : Decodes s.received s.ending s.decode :=
    s.decode_eq_conclude ▸ conclude_decodes s.ending s.received
  exact ⟨fun h => h ▸ decodes, decodes.unique⟩

theorem readAll_eq (s : ByteSource) :
    s.readAll = match s.decode.error with
      | none => .ok (String.ofList s.decode.chars)
      | some error => .error error := by
  unfold readAll
  cases s.decode with
  | mk chars error => cases error <;> rfl

theorem decodes_text_iff {bytes : List UInt8} {failure : Option String} {text : List Char} :
    Decodes bytes failure ⟨text, none⟩ ↔ failure = none ∧ bytes = encode text := by
  constructor
  · rintro ⟨rest, whole, -, verdict⟩
    cases verdict
    exact ⟨rfl, by simpa using whole⟩
  · rintro ⟨rfl, rfl⟩
    refine ⟨[], by simp, ?_, .clean⟩
    intro c front
    simp at front

theorem readAll_eq_ok_iff {s : ByteSource} {text : String} :
    s.readAll = .ok text ↔ s.ending = none ∧ s.received = encode text.toList := by
  rw [← decodes_text_iff, ← decode_eq_iff, readAll_eq]
  cases s.decode with
  | mk chars error =>
      cases error with
      | none => simp [← String.toList_inj]
      | some error => simp

/-- Decoding gives the text of the bytes that arrive, however they are cut into chunks,
    and the error there is if they are none, or if the input fails. All of it is read
    if and only if the input ends without failure and its bytes are those of a text. -/
theorem decode_strictly (s : ByteSource) :
    (∀ decoded, s.decode = decoded ↔ Decodes s.received s.ending decoded) ∧
      (∀ s' : ByteSource, s'.received = s.received → s'.ending = s.ending →
        s'.decode = s.decode) ∧
      (s.readAll = match s.decode.error with
        | none => .ok (String.ofList s.decode.chars)
        | some error => .error error) ∧
      ∀ text, s.readAll = .ok text ↔ s.ending = none ∧ s.received = encode text.toList := by
  refine ⟨fun _ => decode_eq_iff, ?_, readAll_eq s, fun _ => readAll_eq_ok_iff⟩
  intro s' received ending
  rw [decode_eq_iff, received, ending, ← decode_eq_iff]

/-- A character that is cut by two reads, and one that the second read cannot go on with. -/
example :
    (⟨[[0xC3], [0xBC, 0xE0], [0x80]], none⟩ : ByteSource).decode =
      ⟨['ü'], some (.invalidUtf8 [0xE0])⟩ := by decide

end ByteSource

end Sexpr
