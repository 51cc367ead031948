/-
Module: ChatRobots.Number.Basic
Purpose: Binary64 numbers as exact data, and the rounding of a ratio to one.
Main exports: Number, Number.ofParts?, Number.ofRatio?, Number.toBits, roundHalfEven
-/
import ChatRobots.Number.Power

namespace ChatRobots

/-!
A vote or an estimation is a finite binary64 number.  It is held as sign, significand and
exponent, so that equality is equality of data and every operation is exact integer arithmetic:

    value = ± significand · 2 ^ exponent / 2 ^ 1074

The significand has at most 53 bits, and has all of them unless the exponent is zero, which makes
the representation of each value unique.  Zero keeps its sign.  Infinities and NaN have no
representation: a text that would need one is no number here.
-/

/-- A finite binary64 number. -/
structure Number where
  negative : Bool
  significand : Nat
  exponent : Nat
  significand_lt : significand < pow2 53
  full_or_least : exponent = 0 ∨ pow2 52 ≤ significand
  exponent_le : exponent ≤ 2045
deriving DecidableEq

namespace Number

/-- The quotient of two naturals, rounded to the nearest, a half to the even neighbour. -/
def roundHalfEven (num den : Nat) : Nat :=
  let quotient := num / den
  let twice := 2 * (num % den)
  if twice < den then quotient
  else if den < twice then quotient + 1
  else quotient + quotient % 2

/-- The number with these parts, when they are in range and in the one allowed form. -/
def ofParts? (negative : Bool) (significand exponent : Nat) : Option Number :=
  if h : significand < pow2 53 ∧ (exponent = 0 ∨ pow2 52 ≤ significand) ∧ exponent ≤ 2045 then
    some ⟨negative, significand, exponent, h.1, h.2.1, h.2.2⟩
  else none

/-- Zero, with its sign. -/
def zero (negative : Bool) : Number :=
  ⟨negative, 0, 0, by decide, .inl rfl, by decide⟩

/-- The number nearest to `num / den`, ties to the even significand; none beyond the range. -/
def ofRatio? (negative : Bool) (num den : Nat) : Option Number :=
  let scaled := num * pow2 1074
  let floor := scaled / den
  let exponent := if floor < pow2 53 then 0 else Nat.log2 floor - 52
  let significand := roundHalfEven scaled (den * pow2 exponent)
  if significand = pow2 53 then ofParts? negative (pow2 52) (exponent + 1)
  else ofParts? negative significand exponent

/-- The numerator of the magnitude over `2 ^ 1074`. -/
def magnitude (x : Number) : Nat :=
  x.significand * pow2 x.exponent

/-- Zero of either sign. -/
def isZero (x : Number) : Bool :=
  x.significand == 0

/-- A zero loses its sign; every other number stays what it is. -/
def unsignedZero (x : Number) : Number :=
  if x.isZero then zero false else x

/-- The sixty-four bits of the interchange format. -/
def toBits (x : Number) : UInt64 :=
  let sign := if x.negative then pow2 63 else 0
  let body :=
    if x.significand < pow2 52 then x.significand
    else (x.exponent + 1) * pow2 52 + (x.significand - pow2 52)
  UInt64.ofNat (sign + body)

@[simp] theorem unsignedZero_idem (x : Number) : x.unsignedZero.unsignedZero = x.unsignedZero := by
  simp only [unsignedZero]
  split
  · rfl
  · simp_all

end Number

end ChatRobots
