/-
Module: ChatRobots.Database.Basic
Purpose: The tables of the database as data.
Main exports: Table, Cell, Database and its row types, query, command
-/
import ChatRobots.StoreError
import ChatRobots.Calendar.Instant

namespace ChatRobots

/-!
The database is five tables.  A table is its rows in the order of their insertion together with
the last id it has given out; ids count up from one in each table and are never given out twice.

Rows hold what the columns hold.  Instants and dates are texts, ordered and compared as texts,
and so is the roster; a column of numbers holds a number or, if someone has written one over it,
a text.  An integral number is stored as an integer, so a zero does not keep its sign.

Once the pool is closed every statement fails.
-/

/-- Rows in insertion order, and the last id given out. -/
structure Table (ρ : Type) where
  rows : List ρ := []
  lastId : Int := 0

namespace Table

variable {ρ : Type}

/-- Insert the row made from a new id. -/
def insert (row : Int → ρ) (table : Table ρ) : Table ρ :=
  ⟨table.rows ++ [row (table.lastId + 1)], table.lastId + 1⟩

/-- Change the rows that satisfy the test. -/
def update (test : ρ → Bool) (change : ρ → ρ) (table : Table ρ) : Table ρ :=
  { table with rows := table.rows.map fun row => if test row then change row else row }

end Table

/-- What a column of numbers holds. -/
inductive Cell where
  | real (value : Number)
  | text (value : String)
deriving DecidableEq

namespace Cell

/-- The cell for a number that is written. -/
def ofNumber (value : Number) : Cell :=
  .real value.unsignedZero

/-- The number in the cell. -/
def read (column : RealColumn) : Cell → Except StoreError Number
  | real value => .ok value
  | text _ => .error (.storage (.notReal column))

end Cell

structure SessionRow where
  id : Int
  channel : String
  title : String
  users : String
  createdAt : String
  finishedAt : Option String

structure StoryRow where
  id : Int
  sessionId : Int
  title : String
  estimation : Option Cell
  createdAt : String

structure VoteRow where
  id : Int
  storyId : Int
  user : String
  value : Cell
  createdAt : String

structure SettingRow where
  id : Int
  user : String
  name : String
  value : String

structure VacationRow where
  id : Int
  user : String
  description : String
  startDate : String
  endDate : String

/-- The tables, and whether the pool is closed. -/
structure Database where
  sessions : Table SessionRow := {}
  stories : Table StoryRow := {}
  votes : Table VoteRow := {}
  settings : Table SettingRow := {}
  vacations : Table VacationRow := {}
  closed : Bool := false

namespace Database

/-- Run a statement unless the pool is closed. -/
def statement {α : Type} (act : Act Database α) : Act Database α := fun db =>
  if db.closed then (.error (.storage (.database .poolClosed)), db) else act db

/-- Answer from the tables without changing them. -/
def query {α : Type} (answer : Database → Except StoreError α) : Act Database α :=
  statement fun db => (answer db, db)

/-- Change the tables and answer. -/
def command {α : Type} (change : Database → α × Database) : Act Database α :=
  statement fun db => let (answer, db) := change db; (.ok answer, db)

/-- Close the pool. -/
def close (db : Database) : Database :=
  { db with closed := true }

/-- Put rows in the order of a text and, for equal texts, of their ids. -/
def sortBy {ρ : Type} (text : ρ → String) (id : ρ → Int) (rows : List ρ) : List ρ :=
  rows.mergeSort fun a b =>
    if text a = text b then id a ≤ id b else !decide (text b < text a)

/-- Read an instant from a column. -/
def readInstant (column text : String) : Except StoreError Instant :=
  (Instant.ofText text).mapError fun cause => .storage (.badTime column cause)

/-- Read a date from a column. -/
def readDate (column text : String) : Except StoreError Date :=
  (Date.ofText text).mapError fun cause => .storage (.badTime column cause)

end Database

end ChatRobots
