/-
Module: ChatRobots.Database.Overwrite
Purpose: Texts that someone else writes over the columns of a table.
Main exports: Database.overwrite?, Cell.ofText
-/
import ChatRobots.Database.Basic

namespace ChatRobots

/-!
The tables are open to other programs, and what they write need not be what a reader expects.
`overwrite?` writes a text into one column of the row with an id and tells how many rows had it.
A column of texts takes the text as it is.  A column of numbers turns a text that looks like a
number into one and keeps any other text; a finishing time that is overwritten counts as set,
whatever the text.
-/

namespace Cell

/-- The blanks that may surround a number written into a column. -/
def isSpace (c : Char) : Bool :=
  c == ' ' || ('\t' ≤ c && c ≤ '\r')

/-- The cell for a text written into a column of numbers. -/
def ofText (text : String) : Cell :=
  let body := ((text.toList.dropWhile isSpace).reverse.dropWhile isSpace).reverse
  match (Decimal.read? body).bind Decimal.toNumber? with
  | some number => ofNumber number
  | none => .text text

end Cell

namespace SessionRow

def overwrite? (column text : String) : Option (SessionRow → SessionRow) :=
  match column with
  | "channel" => some fun row => { row with channel := text }
  | "title" => some fun row => { row with title := text }
  | "users" => some fun row => { row with users := text }
  | "created_at" => some fun row => { row with createdAt := text }
  | "finished_at" => some fun row => { row with finishedAt := some text }
  | _ => none

end SessionRow

namespace StoryRow

def overwrite? (column text : String) : Option (StoryRow → StoryRow) :=
  match column with
  | "title" => some fun row => { row with title := text }
  | "estimation" => some fun row => { row with estimation := some (Cell.ofText text) }
  | "created_at" => some fun row => { row with createdAt := text }
  | _ => none

end StoryRow

namespace VoteRow

def overwrite? (column text : String) : Option (VoteRow → VoteRow) :=
  match column with
  | "user" => some fun row => { row with user := text }
  | "vote" => some fun row => { row with value := Cell.ofText text }
  | "created_at" => some fun row => { row with createdAt := text }
  | _ => none

end VoteRow

namespace SettingRow

def overwrite? (column text : String) : Option (SettingRow → SettingRow) :=
  match column with
  | "user" => some fun row => { row with user := text }
  | "name" => some fun row => { row with name := text }
  | "value" => some fun row => { row with value := text }
  | _ => none

end SettingRow

namespace VacationRow

def overwrite? (column text : String) : Option (VacationRow → VacationRow) :=
  match column with
  | "user" => some fun row => { row with user := text }
  | "description" => some fun row => { row with description := text }
  | "start_date" => some fun row => { row with startDate := text }
  | "end_date" => some fun row => { row with endDate := text }
  | _ => none

end VacationRow

namespace Table

/-- Change the row with the id; how many rows there were, and the table. -/
def overwrite {ρ : Type} (idOf : ρ → Int) (id : Int) (change : ρ → ρ) (table : Table ρ) :
    Nat × Table ρ :=
  (table.rows.countP (idOf · == id), table.update (idOf · == id) change)

end Table

namespace Database

/-- Write a text over a column of the row with the id: the number of rows and the database.
Nothing when there is no such table or column. -/
def overwrite? (table column : String) (id : Int) (text : String) (db : Database) :
    Option (Nat × Database) :=
  match table with
  | "poker_sessions" => (SessionRow.overwrite? column text).map fun change =>
      let (count, sessions) := db.sessions.overwrite (·.id) id change
      (count, { db with sessions := sessions })
  | "poker_stories" => (StoryRow.overwrite? column text).map fun change =>
      let (count, stories) := db.stories.overwrite (·.id) id change
      (count, { db with stories := stories })
  | "poker_votes" => (VoteRow.overwrite? column text).map fun change =>
      let (count, votes) := db.votes.overwrite (·.id) id change
      (count, { db with votes := votes })
  | "settings" => (SettingRow.overwrite? column text).map fun change =>
      let (count, settings) := db.settings.overwrite (·.id) id change
      (count, { db with settings := settings })
  | "vacations" => (VacationRow.overwrite? column text).map fun change =>
      let (count, vacations) := db.vacations.overwrite (·.id) id change
      (count, { db with vacations := vacations })
  | _ => none

end Database

end ChatRobots
