/-
Module: ChatRobots.Calendar.Date
Purpose: Days of the proleptic Gregorian calendar, their order and their count.
Main exports: Date, Date.of?, Date.dayNumber, Date.next?, Date.weekday
-/

namespace ChatRobots

/-!
The calendar runs from the first day of year -262143 to the last day of year 262142, with the
leap years of the Gregorian rule throughout and a year zero.  `dayNumber` counts days, so that the
first day of year one is day one; the distance of two dates is the difference of their numbers,
and `next?` moves to the day with the next number.
-/

namespace Calendar

/-- Leap years: every fourth, of the centuries every fourth. -/
def isLeapYear (year : Int) : Bool :=
  year % 4 == 0 && (year % 100 != 0 || year % 400 == 0)

/-- The length of a month; zero for a number that is no month. -/
def daysInMonth (year : Int) (month : Nat) : Nat :=
  match month with
  | 1 | 3 | 5 | 7 | 8 | 10 | 12 => 31
  | 4 | 6 | 9 | 11 => 30
  | 2 => if isLeapYear year then 29 else 28
  | _ => 0

def firstYear : Int := -262143

def lastYear : Int := 262142

/-- Year, month and day name a day of the calendar. -/
def IsDate (year : Int) (month day : Nat) : Prop :=
  firstYear ≤ year ∧ year ≤ lastYear ∧ 1 ≤ day ∧ day ≤ daysInMonth year month

instance (year : Int) (month day : Nat) : Decidable (IsDate year month day) := by
  unfold IsDate; infer_instance

/-- The days of the years before this one, counted from year one. -/
def daysBeforeYear (year : Int) : Int :=
  let past := year - 1
  365 * past + past / 4 - past / 100 + past / 400

/-- The days of the months before this one in its year. -/
def daysBeforeMonth (year : Int) : Nat → Nat
  | 0 => 0
  | month + 1 => daysBeforeMonth year month + daysInMonth year month

end Calendar

open Calendar in
/-- A day of the calendar. -/
structure Date where
  year : Int
  month : Nat
  day : Nat
  isDate : IsDate year month day
deriving DecidableEq

namespace Date

open Calendar

/-- The date with these parts, when there is such a day. -/
def of? (year : Int) (month day : Nat) : Option Date :=
  if h : IsDate year month day then some ⟨year, month, day, h⟩ else none

/-- The number of the day; the first day of year one is day one. -/
def dayNumber (date : Date) : Int :=
  daysBeforeYear date.year + daysBeforeMonth date.year date.month + date.day

/-- The day after this one; none after the last day of the calendar. -/
def next? (date : Date) : Option Date :=
  match of? date.year date.month (date.day + 1) with
  | some later => some later
  | none =>
      match of? date.year (date.month + 1) 1 with
      | some later => some later
      | none => of? (date.year + 1) 1 1

/-- The day before this one; none before the first day of the calendar. -/
def previous? (date : Date) : Option Date :=
  match of? date.year date.month (date.day - 1) with
  | some earlier => some earlier
  | none =>
      match of? date.year (date.month - 1) (daysInMonth date.year (date.month - 1)) with
      | some earlier => some earlier
      | none => of? (date.year - 1) 12 31

/-- Earlier dates come first: by year, then month, then day. -/
def le (a b : Date) : Bool :=
  a.year < b.year || (a.year == b.year &&
    (a.month < b.month || (a.month == b.month && a.day ≤ b.day)))

instance : LE Date := ⟨fun a b => a.le b = true⟩

instance (a b : Date) : Decidable (a ≤ b) := inferInstanceAs (Decidable (a.le b = true))

/-- The days from the first date to the second, none when the second is not later. -/
def daysUntil (today target : Date) : Nat :=
  (target.dayNumber - today.dayNumber).toNat

@[simp] theorem of?_self (date : Date) : of? date.year date.month date.day = some date := by
  simp [of?, date.isDate]

end Date

end ChatRobots
