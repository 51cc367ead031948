/-
Module: ChatRobots.Text.Hex
Purpose: Hexadecimal digits.
Main exports: hexValue?, hexNumber
-/

namespace ChatRobots.Text

/-- The value of a hexadecimal digit, in upper or lower case. -/
def hexValue? (c : Char) : Option Nat :=
  if '0' ≤ c ∧ c ≤ '9' then some (c.toNat - '0'.toNat)
  else if 'A' ≤ c ∧ c ≤ 'F' then some (c.toNat - 'A'.toNat + 10)
  else if 'a' ≤ c ∧ c ≤ 'f' then some (c.toNat - 'a'.toNat + 10)
  else none

/-- The character is a hexadecimal digit. -/
def isHexDigit (c : Char) : Bool :=
  (hexValue? c).isSome

/-- The number that digits denote; a character that is no digit counts as zero. -/
def hexNumber (digits : List Char) : Nat :=
  digits.foldl (fun value d => value * 16 + (hexValue? d).getD 0) 0

end ChatRobots.Text
