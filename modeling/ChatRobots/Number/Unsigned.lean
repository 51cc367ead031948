/-
Module: ChatRobots.Number.Unsigned
Purpose: Whole numbers below a bound, as they are written in settings.
Main exports: Word16, Word32, Word64, bounded?, unsigned?
-/
import ChatRobots.Number.Reader

namespace ChatRobots

/-!
A whole number is written with decimal digits, at least one; a plus may stand before them and
leading zeros do no harm.  A number that is too large is no number.
-/

/-- A number of sixteen bits. -/
abbrev Word16 := Fin 65536

/-- A number of thirty-two bits. -/
abbrev Word32 := Fin 4294967296

/-- A number of sixty-four bits. -/
abbrev Word64 := Fin 18446744073709551616

/-- The number, if it is below the bound. -/
def bounded? (bound number : Nat) : Option (Fin bound) :=
  if h : number < bound then some ⟨number, h⟩ else none

/-- The number below the bound that a text denotes. -/
def unsigned? (bound : Nat) (text : String) : Option (Fin bound) :=
  let digits := match text.toList with
    | '+' :: digits => digits
    | digits => digits
  if digits ≠ [] ∧ digits.all Char.isDigit then bounded? bound (digitsValue digits) else none

theorem val_eq_of_bounded? {bound number : Nat} {value : Fin bound}
    (h : bounded? bound number = some value) : value.val = number := by
  simp only [bounded?] at h
  split at h
  · simp only [Option.some.injEq] at h
    rw [← h]
  · simp at h

end ChatRobots
