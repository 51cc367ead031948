/-
Module: ChatRobots.Proofs.Database.VacationRows
Purpose: Vacations are read back from their rows, and sorted as their rows are.
Main exports: VacationRow.of, VacationRow.decode_of, Database.Keeps, Database.Keeps.create,
  Database.Keeps.select, Database.selected_eq
-/
import ChatRobots.Database.Vacation
import ChatRobots.Proofs.Calendar.DateText
import ChatRobots.Proofs.Database.Queries

namespace ChatRobots

open Vacations

/-!
A row has the two dates of a vacation as texts.  Nothing is lost by that, so whatever a query
selects can be decoded.  What it selects, and in which order, is settled on the texts; for dates
with plain years it is the same selection in the same order as on the dates.
-/

namespace VacationRow

/-- The row that is inserted for a vacation. -/
def of (vacation : Vacation) : VacationRow :=
  ⟨vacation.id, vacation.user, vacation.description, vacation.startDate.toText,
    vacation.endDate.toText⟩

theorem readDate_toText (column : String) (date : Date) :
    Database.readDate column date.toText = .ok date := by
  rw [Database.readDate, Date.ofText_toText]
  rfl

/-- A row that was inserted for a vacation is decoded as this vacation, whatever its dates. -/
theorem decode_of (vacation : Vacation) : (of vacation).decode = .ok vacation := by
  rw [decode, of, readDate_toText, readDate_toText]
  rfl

end VacationRow

namespace Database

variable {db : Database} {vacations : List Vacation}

/-- The database is open and its rows are those of these vacations, numbered one by one. -/
structure Keeps (vacations : List Vacation) (db : Database) : Prop where
  opened : db.closed = false
  rows : db.vacations.rows = vacations.map .of
  lastId : db.vacations.lastId = vacations.length

/-- A vacation gets the next number. -/
theorem Keeps.create (keeps : Keeps vacations db) (user description : String)
    (startDate endDate : Date) :
    let vacation : Vacation := ⟨vacations.length + 1, user, description, startDate, endDate⟩
    ∃ after, createVacation user description startDate endDate db = (.ok vacation, after) ∧
      Keeps (vacations ++ [vacation]) after := by
  refine ⟨{ db with vacations := db.vacations.insert fun id =>
    ⟨id, user, description, startDate.toText, endDate.toText⟩ }, ?_, keeps.opened, ?_, ?_⟩
  · rw [createVacation, command_of_open keeps.opened, keeps.lastId]
  · simp only [Table.insert, keeps.rows, keeps.lastId, List.map_append, List.map_singleton]
    rfl
  · simp only [Table.insert, keeps.lastId, List.length_append, List.length_singleton]
    rfl

/-- The vacations whose rows are selected, in the order of their rows. -/
def selected (test : VacationRow → Bool) (vacations : List Vacation) : List Vacation :=
  (vacations.filter fun vacation => test (.of vacation)).mergeSort fun a b =>
    inOrder (·.startDate) (·.id) (VacationRow.of a) (VacationRow.of b)

theorem map_selected (test : VacationRow → Bool) (vacations : List Vacation) :
    (selected test vacations).map VacationRow.of =
      sortBy (·.startDate) (·.id) ((vacations.map VacationRow.of).filter test) := by
  rw [sortBy_eq, List.filter_map]
  exact List.map_mergeSort fun _ _ _ _ => rfl

/-- A query answers the vacations whose rows it selects; none of the rows is beyond decoding. -/
theorem Keeps.select (keeps : Keeps vacations db) (test : VacationRow → Bool) :
    selectVacations test db = (.ok (selected test vacations), db) := by
  have decoded : ((selected test vacations).map VacationRow.of).mapM VacationRow.decode =
      .ok (selected test vacations) := by
    rw [List.mapM_map]
    exact (mapM_eq_ok fun vacation _ => VacationRow.decode_of vacation).trans
      (congrArg Except.ok (List.map_id _))
  rw [selectVacations, query_of_open keeps.opened, keeps.rows, ← map_selected, decoded]

/-- Texts of dates are compared as the dates are. -/
theorem textLe_toText {a b : Date} (plain : a.HasPlainYear) (plain' : b.HasPlainYear) :
    textLe a.toText b.toText = decide (a ≤ b) := by
  rw [textLe, Bool.eq_iff_iff, Bool.not_eq_true', decide_eq_false_iff_not, decide_eq_true_iff,
    Date.toText_lt_iff plain plain', Decidable.not_not]

/-- Rows are in order as their vacations are. -/
theorem inOrder_of {a b : Vacation} (plain : a.startDate.HasPlainYear)
    (plain' : b.startDate.HasPlainYear) :
    inOrder (·.startDate) (·.id) (VacationRow.of a) (VacationRow.of b) = a.startLe b := by
  have same : a.startDate.toText = b.startDate.toText ↔ a.startDate = b.startDate :=
    Date.toText_injective.eq_iff
  unfold inOrder Vacation.startLe
  by_cases together : a.startDate = b.startDate
  · rw [if_pos together]
    exact if_pos (same.2 together)
  · rw [if_neg together]
    exact (if_neg (mt same.1 together)).trans (textLe_toText plain plain')

/-- What is selected on the texts is what is selected on the dates, in the order of the dates. -/
theorem selected_eq {test : VacationRow → Bool} {test' : Vacation → Bool}
    (plain : ∀ vacation ∈ vacations, vacation.startDate.HasPlainYear)
    (same : ∀ vacation ∈ vacations, test (.of vacation) = test' vacation) :
    selected test vacations = (vacations.filter test').mergeSort Vacation.startLe := by
  rw [selected, List.filter_congr same]
  have sorted := List.map_mergeSort (f := id) (s := Vacation.startLe)
    (l := vacations.filter test')
    (r := fun a b => inOrder (·.startDate) (·.id) (VacationRow.of a) (VacationRow.of b))
    fun a first b second => inOrder_of (plain a (List.mem_of_mem_filter first))
      (plain b (List.mem_of_mem_filter second))
  rwa [List.map_id, List.map_id] at sorted

end Database

end ChatRobots
