/-
Module: ChatRobots.Number.Writer
Purpose: The two texts of a number: with two decimal places, and with the fewest digits.
Main exports: Number.fixed2, Number.fixed2_eq, Number.shortest, Number.toText
-/
import ChatRobots.Number.Basic

namespace ChatRobots

/-!
Chat messages show hours with two places.  The exact value is rounded once, a half to the even
hundredth, and a negative number keeps its sign even where it rounds to zero.

Data is written with the fewest digits that read back as the same number.  A decimal reads back
when it lies in the interval of reals that round to the number; its ends belong to the interval
exactly when the significand is even, since ties go to the even significand.  On the grid of
decimals with `n` digits only the two neighbours of the value can be nearest, so the first grid
with a neighbour in the interval gives the digits.
-/

/-- Decimal digits with a point before the last two. -/
private def withHundredths (hundredths : Nat) : String :=
  let digits := Nat.toDigits 10 hundredths
  let padded := List.replicate (3 - digits.length) '0' ++ digits
  String.ofList (padded.take (padded.length - 2) ++ '.' :: padded.drop (padded.length - 2))

/-- Filled up to three places, the digits are those of the whole part and two more. -/
private theorem padded_hundredths (hundredths : Nat) :
    let digits := Nat.toDigits 10 hundredths
    List.replicate (3 - digits.length) '0' ++ digits = Nat.toDigits 10 (hundredths / 100) ++
      [Nat.digitChar (hundredths / 10 % 10), Nat.digitChar (hundredths % 10)] := by
  have base : 1 < 10 := by decide
  dsimp only
  by_cases small : hundredths < 10
  · rw [Nat.toDigits_of_lt_base small, Nat.div_eq_of_lt (by omega : hundredths < 100),
      Nat.div_eq_of_lt small, Nat.mod_eq_of_lt small]
    rfl
  rw [Nat.toDigits_of_base_le base (Nat.le_of_not_lt small)]
  by_cases medium : hundredths < 100
  · have tens : hundredths / 10 < 10 := by omega
    rw [Nat.toDigits_of_lt_base tens, Nat.div_eq_of_lt medium, Nat.mod_eq_of_lt tens]
    rfl
  · have whole : Nat.toDigits 10 (hundredths / 10) =
        Nat.toDigits 10 (hundredths / 100) ++ [Nat.digitChar (hundredths / 10 % 10)] := by
      rw [Nat.toDigits_of_base_le base (by omega), Nat.div_div_eq_div_mul]
    have some_whole : 0 < (Nat.toDigits 10 (hundredths / 100)).length :=
      List.length_pos_iff.2 Nat.toDigits_ne_nil
    have unfilled : 3 - (Nat.toDigits 10 (hundredths / 100) ++
        [Nat.digitChar (hundredths / 10 % 10)] ++
          [Nat.digitChar (hundredths % 10)]).length = 0 := by
      simp only [List.length_append, List.length_singleton]
      omega
    rw [whole, unfilled, List.replicate_zero, List.nil_append, List.append_assoc]
    rfl

private theorem withHundredths_eq (hundredths : Nat) :
    withHundredths hundredths = toString (hundredths / 100) ++ "." ++
      toString (hundredths / 10 % 10) ++ toString (hundredths % 10) := by
  have digit (n : Nat) : toString (n % 10) = String.ofList [Nat.digitChar (n % 10)] := by
    rw [Nat.toString_eq_ofList_toDigits, Nat.toDigits_of_lt_base (Nat.mod_lt n (by decide))]
  rw [withHundredths, padded_hundredths, digit, digit, Nat.toString_eq_ofList_toDigits]
  simp only [List.length_append, List.length_cons, List.length_nil, Nat.add_sub_cancel,
    List.take_left, List.drop_left]
  rw [← String.toList_inj]
  simp
namespace Number

/-- Two decimal places, rounded to nearest with a half to even. -/
def fixed2 (x : Number) : String :=
  (if x.negative then "-" else "") ++
    withHundredths (roundHalfEven (x.magnitude * 100) (pow2 1074))

/-- The rounded hundredths, digit by digit. -/
theorem fixed2_eq (x : Number) :
    let hundredths := roundHalfEven (x.magnitude * 100) (pow2 1074)
    x.fixed2 = (if x.negative then "-" else "") ++ toString (hundredths / 100) ++ "." ++
      toString (hundredths / 10 % 10) ++ toString (hundredths % 10) := by
  simp only [fixed2, withHundredths_eq, String.append_assoc]

/-- Decimal digits and the place of the point: `0.d₁d₂… · 10 ^ point`. -/
structure Digits where
  digits : List Char
  point : Int
deriving Repr, DecidableEq

/-- Whether `num / den` rounds to `x`: the interval reaches half a step up, and half a step down
or a quarter below the least significand of its exponent. -/
def readsBack (x : Number) (num den : Nat) : Bool :=
  let wide := x.significand ≠ pow2 52 ∨ x.exponent = 0
  let value := num * pow2 1074 * 4
  let step := pow2 x.exponent
  let low := (4 * x.significand - (if wide then 2 else 1)) * step * den
  let high := (4 * x.significand + 2) * step * den
  if x.significand % 2 = 0 then low ≤ value && value ≤ high
  else low < value && value < high

/-- The grid value nearest to `x` among those of `count` digits that read back. -/
def onGrid? (x : Number) (point : Int) (count : Nat) : Option Nat :=
  let shift : Int := point - count
  let num := if 0 ≤ shift then pow10 shift.toNat else 1
  let den := if 0 ≤ shift then 1 else pow10 (-shift).toNat
  let below := x.magnitude * den / (pow2 1074 * num)
  let above := below + 1
  let lowFits := readsBack x (below * num) den
  let highFits := readsBack x (above * num) den
  let nearest := roundHalfEven (x.magnitude * den) (pow2 1074 * num)
  if lowFits && highFits then some nearest
  else if lowFits then some below
  else if highFits then some above
  else none

/-- The place of the point of a value that is not zero. -/
def pointPlace (x : Number) : Int :=
  (Nat.toDigits 10 (x.magnitude * pow10 400 / pow2 1074)).length - 400

/-- The fewest digits that read back, without zeros at their end. -/
def shortest (x : Number) : Digits :=
  if x.isZero then ⟨['0'], 1⟩
  else
    let point := x.pointPlace
    match (List.range 17).findSome? fun n => (onGrid? x point (n + 1)).map fun g => (n + 1, g) with
    | none => ⟨['0'], 1⟩
    | some (count, grid) =>
        let digits := Nat.toDigits 10 grid
        ⟨(digits.reverse.dropWhile (· == '0')).reverse, point + digits.length - count⟩

/-- Lay digits out: plainly while the point stands within sixteen places of the first digit or
at most five zeros before it, with an exponent otherwise. -/
def Digits.layout (d : Digits) : String :=
  let count := d.digits.length
  String.ofList <|
    if 0 < d.point ∧ d.point ≤ 16 then
      let place := d.point.toNat
      if count ≤ place then d.digits ++ List.replicate (place - count) '0' ++ ['.', '0']
      else d.digits.take place ++ '.' :: d.digits.drop place
    else if -5 < d.point ∧ d.point ≤ 0 then
      '0' :: '.' :: List.replicate (-d.point).toNat '0' ++ d.digits
    else
      let exponent := d.point - 1
      let mantissa := match d.digits with
        | [] => []
        | [only] => [only]
        | first :: others => first :: '.' :: others
      mantissa ++ 'e' :: (if exponent < 0 then '-' else '+') :: Nat.toDigits 10 exponent.natAbs

/-- The text of a number in data. -/
def toText (x : Number) : String :=
  (if x.negative then "-" else "") ++ x.shortest.layout

end Number

end ChatRobots
