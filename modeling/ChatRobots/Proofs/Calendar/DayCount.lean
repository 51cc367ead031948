/-
Module: ChatRobots.Proofs.Calendar.DayCount
Purpose: Days are numbered in their order, and the day after has the next number.
Main exports: Calendar.daysInYear, Date.next?_cases, Date.dayNumber_next, Date.dayNumber_le_iff,
  Date.later?, Date.dayNumber_later, Date.daysUntil_eq_zero_iff
-/
import ChatRobots.Proofs.Calendar.DateText

namespace ChatRobots

/-!
The day after a day is found on the calendar: the next day of the month, or else the first of the
next month, or else the first of the next year.  The number of a day is computed, from the leap
years and the lengths of the months before it.  Both agree, so numbers are strictly increasing from
day to day, and as many days later is as many numbers on.
-/

namespace Calendar

/-- The length of a year. -/
def daysInYear (year : Int) : Nat :=
  if isLeapYear year then 366 else 365

theorem isLeapYear_iff {year : Int} :
    isLeapYear year = true ↔ year % 4 = 0 ∧ (year % 100 ≠ 0 ∨ year % 400 = 0) := by
  simp [isLeapYear]

/-- Twelve months have days. -/
theorem daysInMonth_pos (year : Int) {month : Nat} (first : 1 ≤ month) (last : month ≤ 12) :
    0 < daysInMonth year month := by
  unfold daysInMonth
  grind

/-- A year is as long as its months together. -/
theorem daysBeforeMonth_thirteen (year : Int) : daysBeforeMonth year 13 = daysInYear year := by
  simp only [daysBeforeMonth, daysInMonth, daysInYear]
  split <;> rfl

theorem daysBeforeMonth_mono (year : Int) {month later : Nat} (le : month ≤ later) :
    daysBeforeMonth year month ≤ daysBeforeMonth year later := by
  induction le with
  | refl => exact Nat.le_refl _
  | step _ ih => exact Nat.le_trans ih (Nat.le_add_right _ _)

theorem daysBeforeYear_succ (year : Int) :
    daysBeforeYear (year + 1) = daysBeforeYear year + daysInYear year := by
  simp only [daysBeforeYear, daysInYear]
  by_cases leap : isLeapYear year = true
  · rw [if_pos leap]
    rw [isLeapYear_iff] at leap
    omega
  · rw [if_neg leap]
    rw [isLeapYear_iff] at leap
    omega

/-- The years before a later year are at least those up to the end of an earlier one. -/
theorem daysBeforeYear_add_le {year later : Int} (lt : year < later) :
    daysBeforeYear year + daysInYear year ≤ daysBeforeYear later := by
  rw [← daysBeforeYear_succ]
  obtain ⟨more, rfl⟩ := Int.le.dest (show year + 1 ≤ later from lt)
  induction more with
  | zero => exact Int.le_of_eq (congrArg daysBeforeYear (Int.add_zero _).symm)
  | succ more ih =>
      have between := ih (by omega)
      have step := daysBeforeYear_succ (year + 1 + more)
      rw [Int.natCast_succ, ← Int.add_assoc]
      omega

end Calendar

namespace Date

open Calendar

section Order

variable {a b : Date}

/-- The place of a day in its year. -/
def dayOfYear (date : Date) : Nat :=
  daysBeforeMonth date.year date.month + date.day

theorem dayNumber_eq (date : Date) :
    date.dayNumber = daysBeforeYear date.year + date.dayOfYear := by
  rw [dayNumber, dayOfYear, Int.natCast_add, Int.add_assoc]

/-- A day lies within its year. -/
theorem dayOfYear_mem (date : Date) :
    1 ≤ date.dayOfYear ∧ date.dayOfYear ≤ daysInYear date.year := by
  obtain ⟨-, -, first, last⟩ := date.isDate
  have month : date.month + 1 ≤ 13 := Nat.succ_le_succ date.month_mem.2
  have months := daysBeforeMonth_mono date.year month
  have ends : daysBeforeMonth date.year (date.month + 1) =
    daysBeforeMonth date.year date.month + daysInMonth date.year date.month := rfl
  rw [daysBeforeMonth_thirteen] at months
  rw [dayOfYear]
  omega

/-- A later day has a larger number: it is in a later year, in a later month of the year, or later
in the month. -/
theorem dayNumber_lt (later : ¬ b ≤ a) : a.dayNumber < b.dayNumber := by
  rw [le_iff] at later
  rw [dayNumber_eq, dayNumber_eq]
  have first := a.dayOfYear_mem
  have second := b.dayOfYear_mem
  rcases Int.lt_trichotomy a.year b.year with years | years | years
  · have := daysBeforeYear_add_le years
    omega
  · have within : a.dayOfYear < b.dayOfYear := by
      rw [dayOfYear, dayOfYear, ← years]
      rcases Nat.lt_or_ge a.month b.month with months | months
      · have before := daysBeforeMonth_mono a.year (show a.month + 1 ≤ b.month from months)
        have ends : daysBeforeMonth a.year (a.month + 1) =
          daysBeforeMonth a.year a.month + daysInMonth a.year a.month := rfl
        have last := a.isDate.2.2.2
        have := b.isDate.2.2.1
        omega
      · have same : a.month = b.month := by omega
        rw [same]
        omega
    rw [years]
    omega
  · omega

/-- Days are in the order of their numbers. -/
theorem dayNumber_le_iff : a.dayNumber ≤ b.dayNumber ↔ a ≤ b := by
  constructor
  · intro le
    by_cases order : a ≤ b
    · exact order
    · exact absurd (dayNumber_lt order) (Int.not_lt.2 le)
  · intro order
    by_cases back : b ≤ a
    · rw [le_antisymm order back]
    · exact Int.le_of_lt (dayNumber_lt back)

end Order

section Next

theorem of?_of_isDate {year : Int} {month day : Nat} (isDate : IsDate year month day) :
    of? year month day = some ⟨year, month, day, isDate⟩ :=
  dif_pos isDate

theorem of?_of_not_isDate {year : Int} {month day : Nat} (isNone : ¬ IsDate year month day) :
    of? year month day = none :=
  dif_neg isNone

/-- The ways in which a day is followed by another one, or by none. -/
theorem next?_cases (date : Date) :
    (∃ isDate, date.next? = some ⟨date.year, date.month, date.day + 1, isDate⟩) ∨
    (date.day = daysInMonth date.year date.month ∧
      ∃ isDate, date.next? = some ⟨date.year, date.month + 1, 1, isDate⟩) ∨
    (date.month = 12 ∧ date.day = 31 ∧
      ((∃ isDate, date.next? = some ⟨date.year + 1, 1, 1, isDate⟩) ∨
        date.year = lastYear ∧ date.next? = none)) := by
  obtain ⟨early, late, first, last⟩ := date.isDate
  have months := date.month_mem
  unfold next?
  by_cases within : IsDate date.year date.month (date.day + 1)
  · rw [of?_of_isDate within]
    exact .inl ⟨within, rfl⟩
  · have ended : date.day = daysInMonth date.year date.month := by
      unfold IsDate at within
      omega
    rw [of?_of_not_isDate within]
    by_cases inYear : IsDate date.year (date.month + 1) 1
    · rw [of?_of_isDate inYear]
      exact .inr (.inl ⟨ended, inYear, rfl⟩)
    · have december : date.month = 12 := by
        by_cases before : date.month + 1 ≤ 12
        · have := daysInMonth_pos date.year (Nat.le_add_left 1 date.month) before
          unfold IsDate at inYear
          omega
        · omega
      have days : daysInMonth date.year 12 = 31 := rfl
      rw [december, days] at ended
      rw [of?_of_not_isDate inYear]
      refine .inr (.inr ⟨december, ended, ?_⟩)
      by_cases later : date.year + 1 ≤ lastYear
      · have isDate : IsDate (date.year + 1) 1 1 :=
          ⟨Int.le_trans early (Int.le_add_one (Int.le_refl _)), later, Nat.le_refl 1,
            (by decide : 1 ≤ 31)⟩
        exact .inl ⟨isDate, of?_of_isDate isDate⟩
      · refine .inr ⟨by omega, of?_of_not_isDate fun isDate => later isDate.2.1⟩

/-- The day after has the next number. -/
theorem dayNumber_next {date later : Date} (next : date.next? = some later) :
    later.dayNumber = date.dayNumber + 1 := by
  rw [dayNumber, dayNumber]
  rcases date.next?_cases with
    ⟨_, known⟩ | ⟨last, _, known⟩ | ⟨december, last, ⟨_, known⟩ | ⟨_, known⟩⟩
  · cases next.symm.trans known
    dsimp only
    omega
  · cases next.symm.trans known
    have ends : daysBeforeMonth date.year (date.month + 1) =
      daysBeforeMonth date.year date.month + daysInMonth date.year date.month := rfl
    simp only [ends, last]
    omega
  · cases next.symm.trans known
    have ends : daysBeforeMonth date.year 13 =
      daysBeforeMonth date.year 12 + daysInMonth date.year 12 := rfl
    have days : daysInMonth date.year 12 = 31 := rfl
    have january : daysBeforeMonth (date.year + 1) 1 = 0 := rfl
    rw [daysBeforeMonth_thirteen, days] at ends
    simp only [daysBeforeYear_succ, january, december, last]
    omega
  · cases next.symm.trans known

end Next

section Later

/-- The day so many days later, found day by day; none beyond the end of the calendar. -/
def later? (date : Date) : Nat → Option Date
  | 0 => some date
  | days + 1 => (date.later? days).bind next?

variable {date day : Date} {days : Nat}

theorem dayNumber_later (reached : date.later? days = some day) :
    day.dayNumber = date.dayNumber + days := by
  induction days generalizing day with
  | zero =>
      cases reached
      exact (Int.add_zero _).symm
  | succ days ih =>
      obtain ⟨before, earlier, next⟩ := Option.bind_eq_some_iff.1 reached
      rw [dayNumber_next next, ih earlier]
      omega

/-- No days are left until a day that is not later. -/
theorem daysUntil_eq_zero_iff : date.daysUntil day = 0 ↔ day ≤ date := by
  rw [← dayNumber_le_iff, daysUntil]
  omega

end Later

end Date

end ChatRobots
