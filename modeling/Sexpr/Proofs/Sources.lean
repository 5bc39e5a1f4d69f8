import Sexpr.Proofs.Decoding
import Sexpr.Proofs.Outcomes

/-! # Where a text comes from does not matter

A byte source is read to its end before anything in it is parsed. So its bytes are
parsed as the text that they encode, or else there is the input error and nothing is
parsed at all.
-/

namespace Sexpr

namespace ByteSource

@[simp] theorem received_ofBytes (bytes : List UInt8) : (ofBytes bytes).received = bytes := by
  cases bytes <;> simp [ofBytes, received]

@[simp] theorem ending_ofBytes (bytes : List UInt8) : (ofBytes bytes).ending = none := by
  simp [ofBytes, ending]

theorem exists_readAll_error_iff {source : ByteSource} :
    (∃ error, source.readAll = .error error) ↔
      source.ending ≠ none ∨ ∀ text : String, source.received ≠ Utf8.encode text.toList := by
  cases result : source.readAll with
  | ok text =>
      obtain ⟨ended, delivered⟩ := readAll_eq_ok_iff.mp result
      constructor
      · rintro ⟨error, failed⟩
        cases failed
      · rintro (failed | foreign)
        · exact absurd ended failed
        · exact absurd delivered (foreign text)
  | error error =>
      apply iff_of_true ⟨error, rfl⟩
      by_cases ended : source.ending = none
      · apply Or.inr
        intro text delivered
        rw [readAll_eq_ok_iff.mpr ⟨ended, delivered⟩] at result
        cases result
      · exact .inl ended

end ByteSource

theorem parseWith_bytes_of_readAll {source : ByteSource} {text : String}
    (read : source.readAll = .ok text) (settings : Settings) (name : Option String) :
    parseWith settings (.bytes source) name = parseWith settings (.text text) name := by
  simp only [parseWith, Cursor.ofSource, Source.content, read]

theorem parseWith_bytes_of_error {source : ByteSource} {error : InputError}
    (failed : source.readAll = .error error) (settings : Settings) (name : Option String) :
    parseWith settings (.bytes source) name = .error (.input error) := by
  simp only [parseWith, Cursor.ofSource, Source.content, failed]
  rfl

theorem exists_text_of_parseWith_bytes {settings : Settings} {source : ByteSource}
    {name : Option String} {t : Tree} (parsed : parseWith settings (.bytes source) name = .ok t) :
    ∃ text, source.readAll = .ok text ∧ parseWith settings (.text text) name = .ok t := by
  cases read : source.readAll with
  | error error =>
      rw [parseWith_bytes_of_error read] at parsed
      cases parsed
  | ok text =>
      rw [parseWith_bytes_of_readAll read] at parsed
      exact ⟨text, rfl, parsed⟩

theorem parseWith_bytes_of_encode {source : ByteSource} {text : String}
    (delivered : source.received = Utf8.encode text.toList) (ended : source.ending = none)
    (settings : Settings) (name : Option String) :
    parseWith settings (.bytes source) name = parseWith settings (.text text) name := by
  apply parseWith_bytes_of_readAll
  exact ByteSource.readAll_eq_ok_iff.mpr ⟨ended, delivered⟩

/-- However the bytes of a text are cut into chunks, they are parsed to what the text is
    parsed to, in every part of a tree or an error. Without restrictions every way of
    parsing gives this, the one for files with the path as the name of the file. A source
    that fails, or the bytes of which are those of no text, gives its input error alone,
    whatever else these bytes hold. -/
theorem parseWith_sources (settings : Settings) (source : ByteSource) (name : Option String) :
    (∀ text : String, source.received = Utf8.encode text.toList → source.ending = none →
      parseWith settings (.bytes source) name = parseWith settings (.text text) name ∧
      parse (.bytes source) name = parseWith .lenient (.text text) name ∧
      parse (.text text) name = parseWith .lenient (.text text) name ∧
      (parseText text name).mapError .syntactic = parseWith .lenient (.text text) name ∧
      ∀ path, parseFile path (.ok source) = parseWith .lenient (.text text) (some path)) ∧
    (∀ error, source.readAll = .error error →
      parseWith settings (.bytes source) name = .error (.input error)) ∧
    ((∃ error, source.readAll = .error error) ↔
      source.ending ≠ none ∨ ∀ text : String, source.received ≠ Utf8.encode text.toList) := by
  refine ⟨?_, ?_, ByteSource.exists_readAll_error_iff⟩
  · intro text delivered ended
    have agree := parseWith_bytes_of_encode delivered ended
    refine ⟨agree settings name, agree .lenient name, rfl, (parseWith_text _ _ _).symm, ?_⟩
    intro path
    exact agree .lenient (some path)
  · intro error failed
    exact parseWith_bytes_of_error failed settings name

theorem parseWith_sources_cut :
    parseWith .strict (.bytes ⟨[[0x28, 0xC3], [0xBC, 0x29]], none⟩) none =
        parseWith .strict (.text "(ü)") none ∧
      parseWith .lenient (.bytes ⟨[[0x29], [0xFF]], none⟩) none =
        .error (.input (.invalidUtf8 [0xFF])) := by
  constructor
  · exact ((parseWith_sources .strict _ none).1 "(ü)" (by decide) rfl).1
  · exact (parseWith_sources .lenient _ none).2.1 _ (by decide)

end Sexpr
