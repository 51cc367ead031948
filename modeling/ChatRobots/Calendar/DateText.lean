/-
Module: ChatRobots.Calendar.DateText
Purpose: The written forms of a date, and how a written date is read.
Main exports: TimeTextError, readDigits, Date.toText, Date.ofText, Date.toShortText
-/
import ChatRobots.Text.Blank
import ChatRobots.Number.Reader
import ChatRobots.Calendar.Date

namespace ChatRobots

/-!
A date is written year, month and day with hyphens between them.  The month and the day have two
digits and the year at least four; a year that needs more than four, or is negative, has a sign.

Reading is more lenient than writing.  Each number may have blanks before it, the month and the
day may have one digit, and an unsigned year may have fewer than four.  The first thing that is
wrong from left to right is the one reported, except that a day which the calendar does not have
is noticed only when the whole text has been read.
-/

/-- What is wrong with the text of a date or an instant. -/
inductive TimeTextError where
  | tooShort
  | invalid
  | outOfRange
  | trailing
deriving DecidableEq, Repr

namespace TimeTextError

/-- The wording of the error. -/
def message : TimeTextError → String
  | tooShort => "premature end of input"
  | invalid => "input contains invalid characters"
  | outOfRange => "input is out of range"
  | trailing => "trailing input"

end TimeTextError

/-- Read one digit or more, at most `most` of them: their value and the rest. -/
def readDigits (most : Option Nat) (text : List Char) :
    Except TimeTextError (Nat × List Char) :=
  match text with
  | [] => .error .tooShort
  | c :: _ =>
      if c.isDigit then
        let run := text.takeWhile Char.isDigit
        let digits := match most with
          | none => run
          | some most => run.take most
        .ok (digitsValue digits, text.drop digits.length)
      else .error .invalid

/-- Read exactly this character. -/
def readChar (expected : Char) : List Char → Except TimeTextError (List Char)
  | [] => .error .tooShort
  | c :: rest => if c = expected then .ok rest else .error .invalid

/-- Decimal digits, with zeros before them up to the width. -/
def paddedDigits (width value : Nat) : List Char :=
  let digits := Nat.toDigits 10 value
  List.replicate (width - digits.length) '0' ++ digits

namespace Date

/-- The year: four digits, or a sign and at least four. -/
def yearText (year : Int) : List Char :=
  if 0 ≤ year ∧ year ≤ 9999 then paddedDigits 4 year.toNat
  else (if year < 0 then '-' else '+') :: paddedDigits 4 year.natAbs

/-- Year, month and day with hyphens. -/
def toText (date : Date) : String :=
  String.ofList <| yearText date.year ++ '-' :: paddedDigits 2 date.month
    ++ '-' :: paddedDigits 2 date.day

/-- Read a year: a sign and any number of digits, or at most four digits. -/
def readYear (text : List Char) : Except TimeTextError (Int × List Char) := do
  let (year, rest) ← match text with
    | '-' :: rest => (readDigits none rest).map fun (value, rest) => (-(value : Int), rest)
    | '+' :: rest => (readDigits none rest).map fun (value, rest) => ((value : Int), rest)
    | text => (readDigits (some 4) text).map fun (value, rest) => ((value : Int), rest)
  if -2147483648 ≤ year ∧ year < 2147483648 then pure (year, rest) else throw .outOfRange

/-- Read one or two digits whose value is between one and `last`. -/
def readPart (last : Nat) (text : List Char) : Except TimeTextError (Nat × List Char) := do
  let (value, rest) ← readDigits (some 2) (Text.trimStart text)
  if 1 ≤ value ∧ value ≤ last then pure (value, rest) else throw .outOfRange

/-- Read a date that fills the whole text. -/
def ofText (text : String) : Except TimeTextError Date := do
  let (year, rest) ← readYear (Text.trimStart text.toList)
  let rest ← readChar '-' rest
  let (month, rest) ← readPart 12 rest
  let rest ← readChar '-' rest
  let (day, rest) ← readPart 31 rest
  unless rest.isEmpty do throw .trailing
  match of? year month day with
  | some date => pure date
  | none => throw .outOfRange

/-- The name of the weekday, in three letters. -/
def weekdayText (date : Date) : String :=
  match (date.dayNumber % 7).toNat with
  | 0 => "Sun" | 1 => "Mon" | 2 => "Tue" | 3 => "Wed" | 4 => "Thu" | 5 => "Fri" | _ => "Sat"

/-- The name of the month, in three letters. -/
def monthText (date : Date) : String :=
  match date.month with
  | 1 => "Jan" | 2 => "Feb" | 3 => "Mar" | 4 => "Apr" | 5 => "May" | 6 => "Jun"
  | 7 => "Jul" | 8 => "Aug" | 9 => "Sep" | 10 => "Oct" | 11 => "Nov" | _ => "Dec"

/-- Weekday, month and day, as in `Sat, Jul 4`. -/
def toShortText (date : Date) : String :=
  date.weekdayText ++ ", " ++ date.monthText ++ " " ++ toString date.day

end Date

end ChatRobots
