/-
Module: ChatRobots.Vacations.Basic
Purpose: Days off, and what a store of them offers.
Main exports: Vacation, Vacation.isCurrent, Vacation.daysRemaining, Backend, Memory.backend
-/
import ChatRobots.StoreError
import ChatRobots.Calendar.Date

namespace ChatRobots.Vacations

/-!
A vacation runs from its first day to its last, both included.  It is current on the days in
between, and upcoming or current up to its last day.  Nothing asks the last day to be the later
one: a vacation that ends before it starts is current on no day.
-/

/-- Days off of one user. -/
structure Vacation where
  id : Int
  user : String
  description : String
  startDate : Date
  endDate : Date
deriving DecidableEq

namespace Vacation

/-- The day lies within the vacation. -/
def isCurrent (vacation : Vacation) (today : Date) : Bool :=
  vacation.startDate ≤ today && today ≤ vacation.endDate

/-- The vacation has not ended before the day. -/
def isUpcomingOrCurrent (vacation : Vacation) (today : Date) : Bool :=
  today ≤ vacation.endDate

/-- The days that are left after this one, none once the vacation is over. -/
def daysRemaining (vacation : Vacation) (today : Date) : Nat :=
  today.daysUntil vacation.endDate

/-- Earlier starts first, and of one start the smaller id. -/
def startLe (a b : Vacation) : Bool :=
  if a.startDate = b.startDate then a.id ≤ b.id else a.startDate ≤ b.startDate

end Vacation

/-- The calls of a vacation store with states `σ`. -/
structure Backend (σ : Type) where
  create (user description : String) (startDate endDate : Date) : Act σ Vacation
  /-- The vacations that have not ended before the day, by start. -/
  upcoming (today : Date) : Act σ (List Vacation)
  /-- The vacations that the day lies within, by start. -/
  current (today : Date) : Act σ (List Vacation)

namespace Backend

/-- A backend over a part of a larger state. -/
def within {σ τ : Type} (get : τ → σ) (set : σ → τ → τ) (backend : Backend σ) : Backend τ where
  create user description startDate endDate :=
    (backend.create user description startDate endDate).within get set
  upcoming today := (backend.upcoming today).within get set
  current today := (backend.current today).within get set

end Backend

/-- The vacations in the process, in the order of their creation. -/
structure Memory where
  vacations : List Vacation := []

namespace Memory

/-- The vacations that satisfy the test, by start. -/
def select (test : Vacation → Bool) : Act Memory (List Vacation) := fun memory =>
  (.ok ((memory.vacations.filter test).mergeSort Vacation.startLe), memory)

def create (user description : String) (startDate endDate : Date) : Act Memory Vacation :=
  fun memory =>
    let vacation : Vacation :=
      ⟨memory.vacations.length + 1, user, description, startDate, endDate⟩
    (.ok vacation, { memory with vacations := memory.vacations ++ [vacation] })

/-- The calls of the vacation store in memory. -/
def backend : Backend Memory where
  create := create
  upcoming today := select fun vacation => vacation.isUpcomingOrCurrent today
  current today := select fun vacation => vacation.isCurrent today

end Memory

end ChatRobots.Vacations
