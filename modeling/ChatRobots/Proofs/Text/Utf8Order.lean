/-
Module: ChatRobots.Proofs.Text.Utf8Order
Purpose: The order of texts by their characters is the order of their UTF-8 bytes.
Main exports: utf8EncodeChar_append_lt, encodeUtf8_lt
-/
import Mathlib.Tactic.SplitIfs
import ChatRobots.Text.Utf8

namespace ChatRobots.Text

/-!
UTF-8 writes the number of a character in base 64, the highest digit first, and a character with a
larger number never has a smaller lead byte.  So the first place at which two encodings differ
decides as the numbers do, whatever follows.
-/

/-- The last digit decides between numbers that agree in all others. -/
theorem digits_lt {v w : Nat} (less : v < w) (base : Nat) :
    v / base < w / base ∨ v / base = w / base ∧ v % base < w % base := by
  rcases Nat.lt_or_eq_of_le (Nat.div_le_div_right (c := base) (Nat.le_of_lt less)) with up | same
  · exact .inl up
  · refine .inr ⟨same, ?_⟩
    have first := Nat.div_add_mod v base
    have second := Nat.div_add_mod w base
    rw [same] at first
    omega

/-- The first digit in base 64 that differs decides, among four. -/
theorem four_digits_lt {v w : Nat} (less : v < w) :
    v / 262144 < w / 262144 ∨ v / 262144 = w / 262144 ∧
      (v / 4096 % 64 < w / 4096 % 64 ∨ v / 4096 % 64 = w / 4096 % 64 ∧
        (v / 64 % 64 < w / 64 % 64 ∨ v / 64 % 64 = w / 64 % 64 ∧ v % 64 < w % 64)) := by
  have div_64 (n k : Nat) : n / k / 64 = n / (k * 64) := Nat.div_div_eq_div_mul n k 64
  rcases digits_lt less 64 with up | ⟨same, last⟩
  · rcases digits_lt up 64 with up | ⟨same, third⟩
    · simp only [div_64, Nat.reduceMul] at up
      rcases digits_lt up 64 with up | ⟨same, second⟩
      · simp only [div_64, Nat.reduceMul] at up
        exact .inl up
      · simp only [div_64, Nat.reduceMul] at same
        exact .inr ⟨same, .inl second⟩
    · simp only [div_64, Nat.reduceMul] at same
      have higher := congrArg (· / 64) same
      simp only [div_64, Nat.reduceMul] at higher
      exact .inr ⟨higher, .inr ⟨congrArg (· % 64) same, .inl third⟩⟩
  · have higher := congrArg (· / 64) same
    have highest := congrArg (· / 4096) same
    simp only [Nat.div_div_eq_div_mul, Nat.reduceMul] at higher highest
    exact .inr ⟨highest, .inr ⟨congrArg (· % 64) higher, .inr ⟨congrArg (· % 64) same, last⟩⟩⟩

theorem toNat_byte {n : Nat} (fits : n < 256) : (UInt8.ofNat n).toNat = n :=
  UInt8.toNat_ofNat_of_lt' fits

/-- The encodings of two characters decide the order of all bytes that they begin. -/
theorem utf8EncodeChar_append_lt {c d : Char} (less : c < d) (afterFirst afterSecond : List UInt8) :
    String.utf8EncodeChar c ++ afterFirst < String.utf8EncodeChar d ++ afterSecond := by
  have numbers : c.val.toNat < d.val.toNat := by
    simpa [Char.lt_def, UInt32.lt_iff_toNat_lt] using less
  have bound : d.val.toNat < 1114112 := by
    have valid := d.valid
    simp only [UInt32.isValidChar, Nat.isValidChar] at valid
    omega
  unfold String.utf8EncodeChar
  dsimp only
  generalize c.val.toNat = v at *
  generalize d.val.toNat = w at *
  -- The longest encodings have four digits to compare; all others are told apart by fewer.
  have digits := four_digits_lt numbers
  have lead (n : Nat) (small : n < 1114112) : n / 262144 % 8 = n / 262144 :=
    Nat.mod_eq_of_lt (by omega)
  rw [lead v (by omega), lead w bound]
  split_ifs <;>
    simp (disch := omega) only [List.cons_append, List.nil_append, List.cons_lt_cons_iff,
      UInt8.lt_iff_toNat_lt, ← UInt8.toNat_inj, toNat_byte] <;>
    omega

/-- Texts in order have bytes in order. -/
theorem encodeUtf8_lt {first second : String} (less : first < second) :
    encodeUtf8 first < encodeUtf8 second := by
  have chars : first.toList < second.toList := less
  unfold encodeUtf8
  generalize first.toList = front at chars
  generalize second.toList = back at chars
  induction front generalizing back with
  | nil =>
      cases back with
      | nil => cases chars
      | cons d back =>
          rw [List.flatMap_nil, List.flatMap_cons]
          generalize encoded : String.utf8EncodeChar d = bytes
          cases bytes with
          | nil => exact absurd encoded String.utf8EncodeChar_ne_nil
          | cons byte bytes => exact .nil
  | cons c front ih =>
      cases back with
      | nil => cases chars
      | cons d back =>
          rw [List.flatMap_cons, List.flatMap_cons]
          rcases List.cons_lt_cons_iff.1 chars with less | ⟨rfl, rest⟩
          · exact utf8EncodeChar_append_lt less _ _
          · exact List.append_left_lt (ih back rest)

end ChatRobots.Text
