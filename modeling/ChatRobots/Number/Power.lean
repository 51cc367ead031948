/-
Module: ChatRobots.Number.Power
Purpose: The powers of the two bases that numbers are written in.
Main exports: pow2, pow10
-/

namespace ChatRobots

/-- Two to the power of `k`. -/
def pow2 (k : Nat) : Nat :=
  Nat.pow 2 k

/-- Ten to the power of `k`. -/
def pow10 (k : Nat) : Nat :=
  Nat.pow 10 k

@[simp] theorem pow2_zero : pow2 0 = 1 := rfl

theorem pow2_pos (k : Nat) : 0 < pow2 k :=
  Nat.pow_pos (by decide)

@[simp] theorem pow10_zero : pow10 0 = 1 := rfl

end ChatRobots
