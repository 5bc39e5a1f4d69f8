import Mathlib.Data.List.Basic
import Sexpr.Utf8

/-! # The bytes of one character

A decoder tells from a few ranges of numbers whether a run of bytes is a character, the
beginning of one, or neither. What a character's bytes are is settled by its encoding
alone: the ranges leave out exactly the runs that no encoding begins with.
-/

namespace Sexpr.Utf8

/-! ## Ranges of bytes -/

theorem isTail_iff {b : UInt8} : isTail b = true ↔ 0x80 ≤ b.toNat ∧ b.toNat ≤ 0xBF := by
  simp [isTail]

/-- The second byte is any but a first one. Behind four first bytes it is restricted
    further: two would begin overlong forms, one surrogates, and one numbers that are
    too large. -/
theorem isSecond_iff {lead b : UInt8} :
    isSecond lead b = true ↔ isTail b = true ∧
      (lead.toNat = 0xE0 → 0xA0 ≤ b.toNat) ∧ (lead.toNat = 0xED → b.toNat ≤ 0x9F) ∧
      (lead.toNat = 0xF0 → 0x90 ≤ b.toNat) ∧ (lead.toNat = 0xF4 → b.toNat ≤ 0x8F) := by
  rw [isTail_iff]
  unfold isSecond
  split <;> simp_all [isTail] <;> omega

theorem lengthOf_eq_one_iff {a : UInt8} : lengthOf a = 1 ↔ a.toNat < 0x80 := by
  grind [lengthOf]

theorem lengthOf_eq_two_iff {a : UInt8} : lengthOf a = 2 ↔ 0xC2 ≤ a.toNat ∧ a.toNat < 0xE0 := by
  grind [lengthOf]

theorem lengthOf_eq_three_iff {a : UInt8} : lengthOf a = 3 ↔ 0xE0 ≤ a.toNat ∧ a.toNat < 0xF0 := by
  grind [lengthOf]

theorem lengthOf_eq_four_iff {a : UInt8} : lengthOf a = 4 ↔ 0xF0 ≤ a.toNat ∧ a.toNat < 0xF5 := by
  grind [lengthOf]

theorem lengthOf_cases (a : UInt8) :
    lengthOf a = 0 ∨ lengthOf a = 1 ∨ lengthOf a = 2 ∨ lengthOf a = 3 ∨ lengthOf a = 4 := by
  grind [lengthOf]

theorem exists_isSecond (a : UInt8) : ∃ b, isSecond a b = true := by
  by_cases overlong : a.toNat = 0xE0 ∨ a.toNat = 0xF0
  · refine ⟨0xA0, isSecond_iff.mpr ⟨rfl, ?_⟩⟩
    simp only [UInt8.reduceToNat]
    omega
  · refine ⟨0x80, isSecond_iff.mpr ⟨rfl, ?_⟩⟩
    simp only [UInt8.reduceToNat]
    omega

/-! ## The four lengths of a character -/

/-- These are the bytes of the character, as the ranges have it: each byte is one that
    can stand there, and their low bits make the character's number. -/
inductive Encodes (c : Char) : List UInt8 → Prop where
  | one {x} (lead : lengthOf x = 1) (number : x.toNat = c.toNat) : Encodes c [x]
  | two {x y} (lead : lengthOf x = 2) (second : isSecond x y = true)
      (number : x.toNat % 32 * 64 + tailBits y = c.toNat) : Encodes c [x, y]
  | three {x y z} (lead : lengthOf x = 3) (second : isSecond x y = true)
      (third : isTail z = true)
      (number : (x.toNat % 16 * 64 + tailBits y) * 64 + tailBits z = c.toNat) :
      Encodes c [x, y, z]
  | four {x y z w} (lead : lengthOf x = 4) (second : isSecond x y = true)
      (third : isTail z = true) (fourth : isTail w = true)
      (number : ((x.toNat % 8 * 64 + tailBits y) * 64 + tailBits z) * 64 + tailBits w = c.toNat) :
      Encodes c [x, y, z, w]

theorem ofNat_eq_of_toNat_eq {b : UInt8} {n : Nat} (h : b.toNat = n) : UInt8.ofNat n = b := by
  rw [← h, UInt8.ofNat_toNat]

theorem Encodes.utf8EncodeChar_eq {c : Char} {bytes : List UInt8} (h : Encodes c bytes) :
    String.utf8EncodeChar c = bytes := by
  unfold String.utf8EncodeChar
  cases h with
  | one lead number =>
      simp only [lengthOf_eq_one_iff, Char.toNat] at lead number
      rw [if_pos (by omega), ofNat_eq_of_toNat_eq number]
  | two lead second number =>
      simp only [lengthOf_eq_two_iff, isSecond_iff, isTail_iff, tailBits, Char.toNat]
        at lead second number
      rw [if_neg (by omega), if_pos (by omega)]
      congr 2 <;> apply ofNat_eq_of_toNat_eq <;> omega
  | three lead second third number =>
      simp only [lengthOf_eq_three_iff, isSecond_iff, isTail_iff, tailBits, Char.toNat]
        at lead second third number
      rw [if_neg (by omega), if_neg (by omega), if_pos (by omega)]
      congr 3 <;> apply ofNat_eq_of_toNat_eq <;> omega
  | four lead second third fourth number =>
      simp only [lengthOf_eq_four_iff, isSecond_iff, isTail_iff, tailBits, Char.toNat]
        at lead second third fourth number
      rw [if_neg (by omega), if_neg (by omega), if_neg (by omega)]
      congr 4 <;> apply ofNat_eq_of_toNat_eq <;> omega

theorem encodes_utf8EncodeChar (c : Char) : Encodes c (String.utf8EncodeChar c) := by
  have valid : c.val.toNat < 0xD800 ∨ 0xDFFF < c.val.toNat ∧ c.val.toNat < 0x110000 := c.valid
  unfold String.utf8EncodeChar
  dsimp only
  split
  · apply Encodes.one
    all_goals
      simp only [lengthOf_eq_one_iff, UInt8.toNat_ofNat', Char.toNat]
      omega
  split
  · apply Encodes.two
    all_goals
      simp only [lengthOf_eq_two_iff, isSecond_iff, isTail_iff, tailBits, UInt8.toNat_ofNat',
        Char.toNat]
      omega
  split
  · apply Encodes.three
    all_goals
      simp only [lengthOf_eq_three_iff, isSecond_iff, isTail_iff, tailBits, UInt8.toNat_ofNat',
        Char.toNat]
      omega
  · apply Encodes.four
    all_goals
      simp only [lengthOf_eq_four_iff, isSecond_iff, isTail_iff, tailBits, UInt8.toNat_ofNat',
        Char.toNat]
      omega

theorem encodes_iff {c : Char} {bytes : List UInt8} :
    Encodes c bytes ↔ String.utf8EncodeChar c = bytes :=
  ⟨Encodes.utf8EncodeChar_eq, fun h => h ▸ encodes_utf8EncodeChar c⟩

/-! Bytes in the ranges always make a character, as their number is that of one. -/

theorem toNat_ofNat_of_valid {n : Nat} (valid : n < 0xD800 ∨ 0xDFFF < n ∧ n < 0x110000) :
    n = (Char.ofNat n).toNat := by
  rw [Char.ofNat, dif_pos valid]
  rfl

theorem exists_encodes_one {x : UInt8} (lead : lengthOf x = 1) : ∃ c, Encodes c [x] := by
  refine ⟨_, .one lead (toNat_ofNat_of_valid ?_)⟩
  rw [lengthOf_eq_one_iff] at lead
  omega

theorem exists_encodes_two {x y : UInt8} (lead : lengthOf x = 2) (second : isSecond x y = true) :
    ∃ c, Encodes c [x, y] := by
  refine ⟨_, .two lead second (toNat_ofNat_of_valid ?_)⟩
  simp only [lengthOf_eq_two_iff, isSecond_iff, isTail_iff, tailBits] at lead second ⊢
  omega

theorem exists_encodes_three {x y z : UInt8} (lead : lengthOf x = 3)
    (second : isSecond x y = true) (third : isTail z = true) : ∃ c, Encodes c [x, y, z] := by
  refine ⟨_, .three lead second third (toNat_ofNat_of_valid ?_)⟩
  simp only [lengthOf_eq_three_iff, isSecond_iff, isTail_iff, tailBits] at lead second third ⊢
  omega

theorem exists_encodes_four {x y z w : UInt8} (lead : lengthOf x = 4)
    (second : isSecond x y = true) (third : isTail z = true) (fourth : isTail w = true) :
    ∃ c, Encodes c [x, y, z, w] := by
  refine ⟨_, .four lead second third fourth (toNat_ofNat_of_valid ?_)⟩
  simp only [lengthOf_eq_four_iff, isSecond_iff, isTail_iff, tailBits]
    at lead second third fourth ⊢
  omega

/-! ## What a run of bytes is -/

theorem Encodes.extent_eq {c : Char} {bytes : List UInt8} (h : Encodes c bytes) :
    extent bytes = .complete c := by
  cases h with
  | one lead number => simp only [extent, lead, number, Char.ofNat_toNat]
  | two lead second number =>
      simp only [extent, lead, second, number, Char.ofNat_toNat, Bool.not_true,
        Bool.false_eq_true, if_false]
  | three lead second third number =>
      simp only [extent, lead, second, third, number, Char.ofNat_toNat, Bool.and_self,
        Bool.not_true, Bool.false_eq_true, if_false]
  | four lead second third fourth number =>
      simp only [extent, lead, second, third, fourth, number, Char.ofNat_toNat, Bool.and_self,
        BEq.rfl, if_true]

theorem Encodes.extent_beginning {c : Char} {bytes rest : List UInt8}
    (h : Encodes c (bytes ++ rest)) (more : rest ≠ []) : extent bytes = .unfinished := by
  generalize whole : bytes ++ rest = all at h
  cases h <;> rcases bytes with _ | ⟨x, _ | ⟨y, _ | ⟨z, _ | ⟨w, bytes⟩⟩⟩⟩ <;>
    simp_all [extent]

theorem encodes_or_invalid (bytes : List UInt8) :
    (∃ c, Encodes c bytes) ∨ (∃ rest, rest ≠ [] ∧ ∃ c, Encodes c (bytes ++ rest)) ∨
      extent bytes = .invalid := by
  -- An unfinished run is finished with the lowest bytes that can follow, 0x80 from the third on.
  have tail : isTail 0x80 = true := rfl
  match bytes with
  | [] => exact .inr (.inl ⟨[0x00], by simp, exists_encodes_one rfl⟩)
  | [x] =>
      obtain ⟨y, second⟩ := exists_isSecond x
      rcases lengthOf_cases x with lead | lead | lead | lead | lead
      · exact .inr (.inr (by simp [extent, lead]))
      · exact .inl (exists_encodes_one lead)
      · exact .inr (.inl ⟨[y], by simp, exists_encodes_two lead second⟩)
      · exact .inr (.inl ⟨[y, 0x80], by simp, exists_encodes_three lead second tail⟩)
      · exact .inr (.inl ⟨[y, 0x80, 0x80], by simp, exists_encodes_four lead second tail tail⟩)
  | [x, y] =>
      by_cases second : isSecond x y = true
      · rcases lengthOf_cases x with lead | lead | lead | lead | lead
        · exact .inr (.inr (by simp [extent, second, lead]))
        · exact .inr (.inr (by simp [extent, second, lead]))
        · exact .inl (exists_encodes_two lead second)
        · exact .inr (.inl ⟨[0x80], by simp, exists_encodes_three lead second tail⟩)
        · exact .inr (.inl ⟨[0x80, 0x80], by simp, exists_encodes_four lead second tail tail⟩)
      · exact .inr (.inr (by simp [extent, second]))
  | [x, y, z] =>
      by_cases tails : (isSecond x y && isTail z) = true
      · obtain ⟨second, third⟩ := (Bool.and_eq_true _ _).mp tails
        rcases lengthOf_cases x with lead | lead | lead | lead | lead
        · exact .inr (.inr (by simp [extent, tails, lead]))
        · exact .inr (.inr (by simp [extent, tails, lead]))
        · exact .inr (.inr (by simp [extent, tails, lead]))
        · exact .inl (exists_encodes_three lead second third)
        · exact .inr (.inl ⟨[0x80], by simp, exists_encodes_four lead second third tail⟩)
      · exact .inr (.inr (by simp [extent, tails]))
  | [x, y, z, w] =>
      by_cases all : (isSecond x y && isTail z && isTail w && lengthOf x == 4) = true
      · obtain ⟨⟨⟨second, third⟩, fourth⟩, lead⟩ :
            ((_ ∧ _) ∧ _) ∧ _ := by simpa only [Bool.and_eq_true, beq_iff_eq] using all
        exact .inl (exists_encodes_four lead second third fourth)
      · exact .inr (.inr (by simp [extent, all]))
  | _ :: _ :: _ :: _ :: _ :: _ => exact .inr (.inr rfl)

theorem extent_eq_complete_iff {c : Char} {bytes : List UInt8} :
    extent bytes = .complete c ↔ bytes = String.utf8EncodeChar c := by
  rw [eq_comm (a := bytes), ← encodes_iff]
  constructor
  · intro complete
    rcases encodes_or_invalid bytes with ⟨d, encodes⟩ | ⟨rest, more, d, encodes⟩ | invalid
    · have same := encodes.extent_eq.symm.trans complete
      exact Extent.complete.inj same ▸ encodes
    · cases (encodes.extent_beginning more).symm.trans complete
    · cases invalid.symm.trans complete
  · exact Encodes.extent_eq

theorem extent_eq_unfinished_iff {bytes : List UInt8} :
    extent bytes = .unfinished ↔
      ∃ rest, rest ≠ [] ∧ ∃ c, bytes ++ rest = String.utf8EncodeChar c := by
  constructor
  · intro unfinished
    rcases encodes_or_invalid bytes with ⟨c, encodes⟩ | ⟨rest, more, c, encodes⟩ | invalid
    · cases encodes.extent_eq.symm.trans unfinished
    · exact ⟨rest, more, c, encodes.utf8EncodeChar_eq.symm⟩
    · cases invalid.symm.trans unfinished
  · rintro ⟨rest, more, c, whole⟩
    exact (encodes_iff.mpr whole.symm).extent_beginning more

def Begins (bytes : List UInt8) : Prop :=
  ∃ c, bytes <+: String.utf8EncodeChar c

/-- What is refused is what no encoding begins with. -/
theorem extent_eq_invalid_iff {bytes : List UInt8} : extent bytes = .invalid ↔ ¬ Begins bytes := by
  constructor
  · rintro invalid ⟨c, rest, whole⟩
    by_cases more : rest = []
    · subst more
      cases invalid.symm.trans (extent_eq_complete_iff.mpr (by simpa using whole))
    · cases invalid.symm.trans (extent_eq_unfinished_iff.mpr ⟨rest, more, c, whole⟩)
  · intro other
    cases judged : extent bytes with
    | invalid => rfl
    | complete c =>
        exact absurd ⟨c, [], by simpa using extent_eq_complete_iff.mp judged⟩ other
    | unfinished =>
        obtain ⟨rest, -, c, whole⟩ := extent_eq_unfinished_iff.mp judged
        exact absurd ⟨c, rest, whole⟩ other

theorem begins_of_unfinished {bytes : List UInt8} (h : extent bytes = .unfinished) :
    Begins bytes := by
  obtain ⟨rest, -, c, whole⟩ := extent_eq_unfinished_iff.mp h
  exact ⟨c, rest, whole⟩

theorem no_encoding_within {bytes : List UInt8} (h : extent bytes = .unfinished) (c : Char) :
    ¬ String.utf8EncodeChar c <+: bytes := by
  rintro ⟨between, rfl⟩
  obtain ⟨rest, more, d, whole⟩ := extent_eq_unfinished_iff.mp h
  have unfinished : extent (String.utf8EncodeChar c) = .unfinished :=
    extent_eq_unfinished_iff.mpr ⟨between ++ rest, by simp [more], d, by simpa using whole⟩
  cases unfinished.symm.trans (extent_eq_complete_iff.mpr rfl)

theorem eq_of_encoding_begins {c d : Char}
    (h : String.utf8EncodeChar c <+: String.utf8EncodeChar d) : c = d := by
  obtain ⟨rest, whole⟩ := h
  have complete : extent (String.utf8EncodeChar c) = .complete c := extent_eq_complete_iff.mpr rfl
  by_cases more : rest = []
  · rw [more, List.append_nil] at whole
    exact Extent.complete.inj (complete.symm.trans (extent_eq_complete_iff.mpr whole))
  · cases complete.symm.trans (extent_eq_unfinished_iff.mpr ⟨rest, more, d, whole⟩)

end Sexpr.Utf8
