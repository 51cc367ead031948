/-
Module: ChatRobots.Proofs.Number.Rounding
Purpose: A number is shown with two decimals, to the nearest hundredth.
Main exports: Number.Nearest, Number.nearest_roundHalfEven, Number.TwoDecimals,
  Number.twoDecimals_fixed2
-/
import ChatRobots.Number.Writer

namespace ChatRobots.Number

/-!
What it means to show a number with two decimals is said without the steps by which it is done: no
hundredth is nearer to the number than the one that is shown, and of two that are equally near the
even one is shown.
-/

/-- No natural is nearer to `num / den` than this one, and where another one is as near, this one is
even. -/
structure Nearest (num den whole : Nat) : Prop where
  nearest : ∀ other : Nat,
    ((num : Int) - whole * den).natAbs ≤ ((num : Int) - other * den).natAbs
  even_of_tie : ∀ other : Nat, other ≠ whole →
    ((num : Int) - other * den).natAbs = ((num : Int) - whole * den).natAbs → whole % 2 = 0

/-- How far `num / den` is from a natural, counted in parts of `den`: some whole steps, and from one
that is not above it the remainder, from one above it what the remainder lacks of a step. -/
theorem distance_eq (num : Nat) {den : Nat} (pos : 0 < den) (other : Nat) :
    ∃ steps, (steps = 0 ∨ den ≤ steps) ∧
      (other ≤ num / den ∧ ((num : Int) - other * den).natAbs = steps + num % den ∧
          (steps = 0 ↔ other = num / den) ∨
        num / den < other ∧ ((num : Int) - other * den).natAbs = steps + (den - num % den) ∧
          (steps = 0 ↔ other = num / den + 1)) := by
  have parts := Nat.div_add_mod' num den
  have less := Nat.mod_lt num pos
  generalize num / den = quotient at parts ⊢
  generalize num % den = rest at parts less ⊢
  have whole (count : Nat) :
      (count * den = 0 ∨ den ≤ count * den) ∧ (count * den = 0 ↔ count = 0) := by
    rcases Nat.eq_zero_or_pos count with rfl | counted
    · simp
    · have step := Nat.le_mul_of_pos_left den counted
      omega
  rcases Nat.lt_or_ge quotient other with above | below
  · obtain ⟨count, rfl⟩ := Nat.exists_eq_add_of_le above
    obtain ⟨steps, none⟩ := whole count
    refine ⟨count * den, steps, .inr ⟨above, ?_, none.trans (by omega)⟩⟩
    have product : (quotient + 1 + count) * den = quotient * den + den + count * den := by
      rw [Nat.add_mul, Nat.add_mul, Nat.one_mul]
    rw [← Int.natCast_mul, product]
    omega
  · obtain ⟨count, rfl⟩ := Nat.exists_eq_add_of_le below
    obtain ⟨steps, none⟩ := whole count
    refine ⟨count * den, steps, .inl ⟨below, ?_, none.trans (by omega)⟩⟩
    rw [Nat.add_mul] at parts
    rw [← Int.natCast_mul]
    omega

/-- Rounding goes down below a half and up above it, and a half goes to the even one of the two. -/
theorem roundHalfEven_cases (num den : Nat) :
    2 * (num % den) < den ∧ roundHalfEven num den = num / den ∨
      den < 2 * (num % den) ∧ roundHalfEven num den = num / den + 1 ∨
        2 * (num % den) = den ∧ roundHalfEven num den % 2 = 0 ∧
          (roundHalfEven num den = num / den ∨ roundHalfEven num den = num / den + 1) := by
  unfold roundHalfEven
  dsimp only
  by_cases down : 2 * (num % den) < den
  · rw [if_pos down]
    exact .inl ⟨down, rfl⟩
  by_cases up : den < 2 * (num % den)
  · rw [if_neg down, if_pos up]
    exact .inr (.inl ⟨up, rfl⟩)
  · rw [if_neg down, if_neg up]
    omega

/-- Rounding gives the nearest natural. -/
theorem nearest_roundHalfEven (num : Nat) {den : Nat} (pos : 0 < den) :
    Nearest num den (roundHalfEven num den) := by
  have less := Nat.mod_lt num pos
  have rounded := roundHalfEven_cases num den
  obtain ⟨steps, whole, own⟩ := distance_eq num pos (roundHalfEven num den)
  generalize roundHalfEven num den = nearest at rounded own ⊢
  constructor
  · intro other
    obtain ⟨steps', whole', far⟩ := distance_eq num pos other
    omega
  · intro other differs tie
    obtain ⟨steps', whole', far⟩ := distance_eq num pos other
    omega

/-- The text shows the number with two decimals: the nearest count of hundredths, with a point
before the last two digits, and with a sign if the number is negative. -/
def TwoDecimals (hours : Number) (text : String) : Prop :=
  ∃ hundredths, Nearest (hours.magnitude * 100) (pow2 1074) hundredths ∧
    text = (if hours.negative then "-" else "") ++ toString (hundredths / 100) ++ "." ++
      toString (hundredths / 10 % 10) ++ toString (hundredths % 10)

/-- The text with two places is such a text. -/
theorem twoDecimals_fixed2 (hours : Number) : hours.TwoDecimals hours.fixed2 :=
  ⟨_, nearest_roundHalfEven _ (pow2_pos 1074), hours.fixed2_eq⟩

end ChatRobots.Number
