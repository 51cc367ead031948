/-
Module: ChatRobots.Database.Vacation
Purpose: The vacation store over the tables of the database.
Main exports: Database.vacationBackend
-/
import ChatRobots.Database.Basic
import ChatRobots.Vacations.Basic

namespace ChatRobots

open Vacations

/-!
Dates are stored as texts and compared as texts.  For years of four digits the order of the texts
is the order of the days; a sign sorts before every digit.
-/

namespace VacationRow

def decode (row : VacationRow) : Except StoreError Vacation := do
  let startDate ← Database.readDate "start_date" row.startDate
  let endDate ← Database.readDate "end_date" row.endDate
  pure ⟨row.id, row.user, row.description, startDate, endDate⟩

end VacationRow

namespace Database

/-- The order of texts, character by character. -/
def textLe (a b : String) : Bool :=
  !decide (b < a)

def createVacation (user description : String) (startDate endDate : Date) :
    Act Database Vacation :=
  command fun db => (⟨db.vacations.lastId + 1, user, description, startDate, endDate⟩,
    { db with vacations := db.vacations.insert fun id =>
        ⟨id, user, description, startDate.toText, endDate.toText⟩ })

/-- The vacations whose row satisfies the test, by start and then by id. -/
def selectVacations (test : VacationRow → Bool) : Act Database (List Vacation) :=
  query fun db =>
    (sortBy (·.startDate) (·.id) (db.vacations.rows.filter test)).mapM VacationRow.decode

/-- The calls of the vacation store in the database. -/
def vacationBackend : Vacations.Backend Database where
  create := createVacation
  upcoming today := selectVacations fun row => textLe today.toText row.endDate
  current today := selectVacations fun row =>
    textLe row.startDate today.toText && textLe today.toText row.endDate

end Database

end ChatRobots
