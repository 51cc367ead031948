/-
Module: ChatRobots.Proofs.Database.PokerLedger
Purpose: What each call of the poker store does to the rows of the database.
Main exports: Database.ledger, Database.Counting, Database.tells_of_decode,
  Database.pokerBookkeeping
-/
import ChatRobots.Proofs.Action
import ChatRobots.Proofs.Database.PokerBoard
import ChatRobots.Proofs.Poker.Ledger

namespace ChatRobots

open Poker

/-!
The ledger of the database is its tables.  A row is written down with the texts that its columns
hold, whether or not they can be read again: a session that was inserted at a time whose text
nobody can read is in the ledger like any other.  All that is asked of a table is that its ids were
given out in order.
-/

def SessionRow.line (row : SessionRow) : SessionLine :=
  ⟨row.id, row.channel, row.title, .text row.users, .text row.createdAt,
    row.finishedAt.map .text⟩

def Cell.entry : Cell → Entry
  | .real value => .number value
  | .text value => .text value

def StoryRow.line (row : StoryRow) : StoryLine :=
  ⟨row.id, row.sessionId, row.title, row.estimation.map Cell.entry, .text row.createdAt⟩

def VoteRow.line (row : VoteRow) : VoteLine :=
  ⟨row.id, row.storyId, row.user, row.value.entry, .text row.createdAt⟩

namespace Database

/-- Times and rosters are written as texts, and a zero without its sign. -/
def hand : Hand where
  time now := .text now.toText
  roster roster := .text roster.toCsv
  number value := .number value.unsignedZero

/-- All rows of the tables. -/
def ledger (db : Database) : Ledger where
  sessions := db.sessions.rows.map SessionRow.line
  stories := db.stories.rows.map StoryRow.line
  votes := db.votes.rows.map VoteRow.line
  settings := db.settings.rows
  vacations := db.vacations.rows

/-- The tables of the game have given out their ids in order. -/
structure Counting (db : Database) : Prop where
  sessions : Counted db.sessions.lastId (db.sessions.rows.map (·.id))
  stories : Counted db.stories.lastId (db.stories.rows.map (·.id))
  votes : Counted db.votes.lastId (db.votes.rows.map (·.id))

theorem counting_empty : ({} : Database).Counting :=
  ⟨.nil _, .nil _, .nil _⟩

section Tables

variable {ρ : Type} {idOf : ρ → Int} {table : Table ρ}

theorem rows_update_of_id (table : Table ρ) (id : Int) (change : ρ → ρ) :
    (table.update (idOf · == id) change).rows =
      table.rows.map fun row => if idOf row = id then change row else row := by
  simp [Table.update]

/-- The next id is new. -/
theorem new_of_counted {κ : Type} {line : ρ → κ} {idOfLine : κ → Int}
    (counted : Counted table.lastId (table.rows.map idOf))
    (same : ∀ row, idOfLine (line row) = idOf row) :
    ∀ written ∈ table.rows.map line, idOfLine written ≠ table.lastId + 1 := by
  intro written member
  obtain ⟨row, old, rfl⟩ := List.mem_map.1 member
  rw [same]
  exact Int.ne_of_lt (counted.fresh _ (List.mem_map_of_mem old))

end Tables

variable {db : Database}

/-- Ids given out in order are all different. -/
theorem numbered (counting : db.Counting) : db.ledger.Numbered where
  sessions := by
    rw [ledger, List.map_map]
    exact counting.sessions.ordered.imp Int.ne_of_lt
  stories := by
    rw [ledger, List.map_map]
    exact counting.stories.ordered.imp Int.ne_of_lt
  votes := by
    rw [ledger, List.map_map]
    exact counting.votes.ordered.imp Int.ne_of_lt

section Statements

variable {α : Type}

/-- A closed pool changes nothing. -/
theorem attempt_statement {act : Act Database α} {done : α → Database → Prop}
    (attempt : Attempt db done (act db)) : Attempt db done (statement act db) := by
  unfold statement
  split
  · rfl
  · exact attempt

/-- A command that is carried out. -/
theorem attempt_command {change : Database → α × Database} {done : α → Database → Prop}
    (carried : done (change db).1 (change db).2) : Attempt db done (command change db) :=
  attempt_statement carried

/-- A number is read before the database is asked. -/
theorem attempt_number {act : Number → Act Database α} {done : α → Database → Prop}
    {field value : String}
    (attempt : ∀ number, parseNumber field value = .ok number → Attempt db done (act number db)) :
    Attempt db done
      ((do
        let number ← ExceptT.mk (pure (parseNumber field value))
        act number) db) := by
  cases parsed : parseNumber field value with
  | error error => rfl
  | ok number => exact attempt number parsed

/-- A query changes nothing, whether or not it is answered. -/
theorem query_snd (answer : Database → Except StoreError α) (db : Database) :
    (query answer db).2 = db := by
  unfold query statement
  split <;> rfl

/-- A query that is answered is answered from the tables. -/
theorem query_fst {answer : Database → Except StoreError α} {a : α}
    (answered : (query answer db).1 = .ok a) : answer db = .ok a := by
  unfold query statement at answered
  split at answered
  · cases answered
  · exact answered

/-- The row that was decoded is one of those that were sorted. -/
theorem row_of_decodeLast {ρ : Type} {decode : ρ → Except StoreError α} {text : ρ → String}
    {idOf : ρ → Int} {rows : List ρ} {a : α}
    (decoded : decodeLast decode (sortBy text idOf rows) = .ok (some a)) :
    ∃ row ∈ rows, decode row = .ok a := by
  unfold decodeLast at decoded
  split at decoded
  · cases decoded
  · rename_i row last
    refine ⟨row, List.mem_mergeSort.1 (List.mem_of_getLast? last), ?_⟩
    cases read : decode row with
    | error error =>
        rw [read] at decoded
        cases decoded
    | ok b =>
        rw [read] at decoded
        cases decoded
        rfl

end Statements

/-- What is read of a row is the session that it is the row of. -/
theorem tells_of_decode {row : SessionRow} {session : Session}
    (decoded : row.decode = .ok session) : row.line.Tells session := by
  unfold SessionRow.decode at decoded
  split at decoded
  all_goals
    obtain ⟨_, _, dated⟩ := bind_eq_ok decoded
    obtain ⟨_, _, made⟩ := bind_eq_ok dated
    cases made
    exact ⟨rfl, rfl, rfl, rfl⟩

/-- A story that is read has the id of its row. -/
theorem id_of_decode_story {row : StoryRow} {story : Story} (decoded : row.decode = .ok story) :
    row.id = story.id := by
  unfold StoryRow.decode at decoded
  split at decoded
  all_goals
    obtain ⟨_, _, dated⟩ := bind_eq_ok decoded
    obtain ⟨_, _, made⟩ := bind_eq_ok dated
    cases made
    rfl

/-- The calls of the poker store in the database, row by row. -/
def pokerBookkeeping : Bookkeeping pokerBackend where
  hand := hand
  ledger := ledger
  Sound := Counting
  numbered := numbered
  startSession counting now channel title csv := by
    simp only [pokerBackend, startSession]
    apply attempt_command
    refine ⟨rfl, _, new_of_counted counting.sessions fun _ => rfl, ?_, ?_⟩
    · simp [ledger, Ledger.write, Table.insert, SessionRow.line, hand]
    · exact ⟨counted_insert counting.sessions fun _ => rfl, counting.stories, counting.votes⟩
  startStory counting now sessionId title := by
    apply attempt_statement
    split
    · refine ⟨rfl, _, new_of_counted counting.stories fun _ => rfl, ?_, ?_⟩
      · simp [ledger, Ledger.write, Table.insert, StoryRow.line, hand]
      · exact ⟨counting.sessions, counted_insert counting.stories fun _ => rfl, counting.votes⟩
    · rfl
  castVote counting now storyId user value := by
    apply attempt_number
    intro number parsed
    apply attempt_statement
    split
    · refine ⟨number, _, parsed, new_of_counted counting.votes fun _ => rfl, ?_, ?_⟩
      · simp [ledger, Ledger.write, Table.insert, VoteRow.line, Cell.ofNumber, Cell.entry, hand]
      · exact ⟨counting.sessions, counting.stories, counted_insert counting.votes fun _ => rfl⟩
    · rfl
  setEstimation counting now storyId hours := by
    apply attempt_number
    intro number parsed
    apply attempt_command
    refine ⟨number, 0, parsed, trivial, ?_, ?_⟩
    · simp only [ledger, Ledger.write, rows_update_of_id]
      congr 1
      apply map_map_at_key <;> exact fun _ => rfl
    · exact ⟨counting.sessions, counted_update counting.stories _ fun _ => rfl, counting.votes⟩
  finishSession counting now sessionId := by
    simp only [pokerBackend, finishSession]
    apply attempt_command
    refine ⟨0, trivial, ?_, ?_⟩
    · simp only [ledger, Ledger.write, rows_update_of_id]
      congr 1
      apply map_map_at_key <;> exact fun _ => rfl
    · exact ⟨counted_update counting.sessions _ fun _ => rfl, counting.stories, counting.votes⟩
  currentSession _ db := query_snd _ db
  currentStory _ db := query_snd _ db
  votesFor _ db := query_snd _ db
  storiesFor _ db := query_snd _ db
  estimatedStoriesFor _ db := query_snd _ db
  unfinished current := by
    obtain ⟨row, member, decoded⟩ := row_of_decodeLast (query_fst current)
    obtain ⟨member, passes⟩ := List.mem_filter.1 member
    obtain ⟨own, unfinished⟩ := Bool.and_eq_true_iff.1 passes
    refine ⟨row.line, List.mem_map_of_mem member, (tells_of_decode decoded).id_eq.symm,
      beq_iff_eq.1 own, ?_⟩
    simpa [SessionRow.line] using unfinished
  pending current := by
    obtain ⟨row, member, decoded⟩ := row_of_decodeLast (query_fst current)
    obtain ⟨member, passes⟩ := List.mem_filter.1 member
    obtain ⟨own, waits⟩ := Bool.and_eq_true_iff.1 passes
    refine ⟨row.line, List.mem_map_of_mem member, id_of_decode_story decoded,
      beq_iff_eq.1 own, ?_⟩
    simpa [StoryRow.line] using waits

end Database

end ChatRobots
