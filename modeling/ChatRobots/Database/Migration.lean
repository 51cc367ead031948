/-
Module: ChatRobots.Database.Migration
Purpose: The steps in which the tables of the database come into being.
Main exports: SchemaObject, Migration, migrations, schema
-/

namespace ChatRobots

/-!
The database starts out empty and is brought to its present form by migrations.  Each has a
version, and they are applied in the order of the versions and taken back in the opposite order.
What a migration does is to create tables and indexes, and taking it back removes them.  The
database knows the versions that have been applied, and that determines what is in it.
-/

inductive SchemaKind where
  | table
  | index
deriving DecidableEq, Repr

namespace SchemaKind

def name : SchemaKind → String
  | table => "table"
  | index => "index"

end SchemaKind

/-- A table, or an index on one. -/
structure SchemaObject where
  kind : SchemaKind
  name : String
  /-- The table that it is, or is an index on. -/
  table : String
  /-- The statement that creates it. -/
  statement : String
deriving DecidableEq, Repr

namespace SchemaObject

/-- A table with its columns and constraints, one to a line. -/
def newTable (name : String) (columns : List String) : SchemaObject where
  kind := .table
  name := name
  table := name
  statement := "CREATE TABLE " ++ name ++ " (\n    " ++ ",\n    ".intercalate columns ++ "\n)"

/-- An index on columns of a table. -/
def newIndex (name table columns : String) : SchemaObject where
  kind := .index
  name := name
  table := table
  statement := "CREATE INDEX " ++ name ++ "\n    ON " ++ table ++ "(" ++ columns ++ ")"

end SchemaObject

/-- A step in which tables and indexes are created. -/
structure Migration where
  version : Nat
  description : String
  objects : List SchemaObject

/-- The columns that give each row a number of its own. -/
def idColumn : String := "id INTEGER PRIMARY KEY AUTOINCREMENT"

/-- The tables of the poker robot. -/
def pokerMigration : Migration where
  version := 1
  description := "poker"
  objects := [
    .newTable "poker_sessions" [idColumn, "channel TEXT NOT NULL", "title TEXT NOT NULL",
      "users TEXT NOT NULL DEFAULT ''", "created_at TEXT NOT NULL", "finished_at TEXT"],
    .newIndex "idx_poker_sessions_channel_open" "poker_sessions" "channel, finished_at",
    .newTable "poker_stories" [idColumn,
      "poker_session_id INTEGER NOT NULL REFERENCES poker_sessions(id)", "title TEXT NOT NULL",
      "estimation REAL", "created_at TEXT NOT NULL"],
    .newIndex "idx_poker_stories_session" "poker_stories" "poker_session_id, created_at",
    .newTable "poker_votes" [idColumn,
      "poker_story_id INTEGER NOT NULL REFERENCES poker_stories(id)", "user TEXT NOT NULL",
      "vote REAL NOT NULL", "created_at TEXT NOT NULL"],
    .newIndex "idx_poker_votes_story" "poker_votes" "poker_story_id, created_at"]

/-- The tables of the other two robots. -/
def settingsVacationsMigration : Migration where
  version := 2
  description := "settings vacations"
  objects := [
    .newTable "settings" [idColumn, "user TEXT NOT NULL", "name TEXT NOT NULL",
      "value TEXT NOT NULL", "UNIQUE(user, name)"],
    .newTable "vacations" [idColumn, "user TEXT NOT NULL", "description TEXT NOT NULL DEFAULT ''",
      "start_date TEXT NOT NULL", "end_date TEXT NOT NULL"],
    .newIndex "idx_vacations_dates" "vacations" "start_date, end_date"]

/-- The migrations in the order of their versions. -/
def migrations : List Migration :=
  [pokerMigration, settingsVacationsMigration]

/-- The versions of all migrations. -/
def allVersions : List Nat :=
  migrations.map (·.version)

/-- What is in a database to which the versions have been applied. -/
def schema (applied : List Nat) : List SchemaObject :=
  (migrations.filter fun migration => applied.contains migration.version).flatMap (·.objects)

/-- How many tables there are in it. -/
def tableCount (applied : List Nat) : Nat :=
  ((schema applied).filter fun object => object.kind == .table).length

end ChatRobots
