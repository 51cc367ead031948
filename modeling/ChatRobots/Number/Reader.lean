/-
Module: ChatRobots.Number.Reader
Purpose: The decimal texts that denote a number.
Main exports: Decimal, Decimal.read?, Number.ofText?
-/
import ChatRobots.Text.Blank
import ChatRobots.Number.Basic

namespace ChatRobots

/-!
A number is written as an optional sign, digits with at most one point among them, and an
optional exponent; at least one digit stands before the exponent, and nothing else follows it.
Blanks around the whole are allowed, blanks inside are not.

The text is read into a `Decimal`, an exact value, and only then rounded.  The words for infinity
and for "not a number" are no decimals, and a decimal too large to round has no number either.
-/

/-- The value `± digits · 10 ^ exponent`. -/
structure Decimal where
  negative : Bool
  digits : Nat
  exponent : Int
deriving Repr, DecidableEq

/-- The value of a run of decimal digits. -/
def digitsValue (digits : List Char) : Nat :=
  digits.foldl (fun value d => value * 10 + (d.toNat - '0'.toNat)) 0

/-- A leading sign, and what follows it. -/
def takeSign : List Char → Bool × List Char
  | '-' :: rest => (true, rest)
  | '+' :: rest => (false, rest)
  | text => (false, text)

namespace Decimal

/-- The power of ten after the digits: nothing, or `e` with a signed integer. -/
def readExponent? : List Char → Option Int
  | [] => some 0
  | mark :: text =>
      if mark = 'e' ∨ mark = 'E' then
        let (negative, digits) := takeSign text
        if digits ≠ [] ∧ digits.all Char.isDigit then
          some (if negative then -(digitsValue digits : Int) else digitsValue digits)
        else none
      else none

/-- The digits around the point, and the text after them. -/
def splitPoint (text : List Char) : List Char × List Char × List Char :=
  let whole := text.takeWhile Char.isDigit
  match text.dropWhile Char.isDigit with
  | '.' :: rest => (whole, rest.takeWhile Char.isDigit, rest.dropWhile Char.isDigit)
  | rest => (whole, [], rest)

/-- Read a decimal that fills the whole text. -/
def read? (text : List Char) : Option Decimal :=
  let (negative, body) := takeSign text
  let (whole, fraction, rest) := splitPoint body
  if whole = [] ∧ fraction = [] then none
  else (readExponent? rest).map fun exponent =>
    ⟨negative, digitsValue (whole ++ fraction), exponent - fraction.length⟩

/-- The nearest number.  Far outside the range the powers of ten are not worked out: a value of
at least `10 ^ 400` has no number, and one below `10 ^ -400` is zero. -/
def toNumber? (d : Decimal) : Option Number :=
  if d.digits = 0 then some (Number.zero d.negative)
  else
    let length : Int := (Nat.toDigits 10 d.digits).length
    if 400 < length + d.exponent then none
    else if length + d.exponent < -400 then some (Number.zero d.negative)
    else if 0 ≤ d.exponent then
      Number.ofRatio? d.negative (d.digits * pow10 d.exponent.toNat) 1
    else Number.ofRatio? d.negative d.digits (pow10 (-d.exponent).toNat)

end Decimal

namespace Number

/-- The number that a text denotes, blanks around it aside. -/
def ofText? (text : String) : Option Number :=
  (Decimal.read? (Text.trim text.toList)).bind Decimal.toNumber?

end Number

end ChatRobots
