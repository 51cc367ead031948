/-
Module: ChatRobots.Proofs.Database.PokerUntimed
Purpose: The poker store in the database does at any time what it does at a fixed one, but for the
  times.
Main exports: Database.untimed, Chronicle.untimed, Database.pokerTimeless
-/
import ChatRobots.Proofs.Database.PokerBoard
import ChatRobots.Proofs.Poker.Untimed

namespace ChatRobots

open Poker

/-!
Leaving out the times puts one text into all columns of times.  It is the text of a clock time, so
the tables stay chronicles, for a schedule that names this one time only, and their rows stay in the
order in which they were inserted.
-/

theorem Instant.isClockTime_epoch : Instant.epoch.IsClockTime := by
  decide

theorem Instant.ofStored_epoch : Instant.ofStored Instant.epoch.toText = .epoch := by
  have read := Instant.ofText_eq_ofStored Instant.isClockTime_epoch
  rw [Instant.ofText_toText Instant.isClockTime_epoch] at read
  exact (Except.ok.inj read).symm

/-- One time again and again is a clock that never goes back. -/
theorem steady_epoch (times : List Instant) : Steady (times.map fun _ => .epoch) where
  clock time member := by
    obtain ⟨_, -, rfl⟩ := List.mem_map.1 member
    exact Instant.isClockTime_epoch
  ordered := List.pairwise_map.2 (List.pairwise_of_forall fun _ _ => by decide)

def SessionRow.untimed (row : SessionRow) : SessionRow :=
  { row with
    createdAt := Instant.epoch.toText
    finishedAt := row.finishedAt.map fun _ => Instant.epoch.toText }

def StoryRow.untimed (row : StoryRow) : StoryRow :=
  { row with createdAt := Instant.epoch.toText }

def VoteRow.untimed (row : VoteRow) : VoteRow :=
  { row with createdAt := Instant.epoch.toText }

theorem SessionRow.session_untimed (row : SessionRow) :
    row.untimed.session = row.session.untimed := by
  simp [SessionRow.untimed, SessionRow.session, Session.untimed, Instant.ofStored_epoch,
    Function.comp_def]

theorem StoryRow.story_untimed (row : StoryRow) : row.untimed.story = row.story.untimed := by
  simp [StoryRow.untimed, StoryRow.story, Story.untimed, Instant.ofStored_epoch]

theorem VoteRow.vote_untimed (row : VoteRow) : row.untimed.vote = row.vote.untimed := by
  simp [VoteRow.untimed, VoteRow.vote, Vote.untimed, Instant.ofStored_epoch]

namespace Table

variable {ρ : Type}

/-- The table with its rows looked at in this way. -/
def map (look : ρ → ρ) (table : Table ρ) : Table ρ :=
  { table with rows := table.rows.map look }

theorem map_insert {look : ρ → ρ} {row row' : Int → ρ} (same : ∀ id, look (row id) = row' id)
    (table : Table ρ) : (table.insert row).map look = (table.map look).insert row' := by
  simp [map, insert, same]

theorem map_update {look : ρ → ρ} {test : ρ → Bool} {change change' : ρ → ρ}
    (same_test : ∀ row, test (look row) = test row)
    (same_change : ∀ row, look (change row) = change' (look row)) (table : Table ρ) :
    (table.update test change).map look = (table.map look).update test change' := by
  simp only [map, update, List.map_map, mk.injEq, and_true]
  apply List.map_congr_left
  intro row _
  simp only [Function.comp_apply, same_test]
  split
  · exact same_change row
  · rfl

end Table

/-- A chronicle stays one when all its times are the fixed one. -/
theorem Chronicle.untimed {ρ : Type} {idOf : ρ → Int} {createdAt : ρ → String}
    {times : List Instant} {table : Table ρ} (chronicle : Chronicle idOf createdAt times table)
    {look : ρ → ρ} (same_id : ∀ row, idOf (look row) = idOf row)
    (created : ∀ row, createdAt (look row) = Instant.epoch.toText) :
    Chronicle idOf createdAt (times.map fun _ => .epoch) (table.map look) where
  counted := by
    have ids : (table.rows.map look).map idOf = table.rows.map idOf := by
      rw [List.map_map]
      exact List.map_congr_left fun row _ => same_id row
    exact ids ▸ chronicle.counted
  readable row member := by
    obtain ⟨before, -, rfl⟩ := List.mem_map.1 member
    rw [created]
    exact Instant.ofText_eq_ofStored Instant.isClockTime_epoch
  ordered := by
    refine List.pairwise_map.2 (List.pairwise_of_forall fun earlier later => ?_)
    rw [created, created]
    exact String.lt_irrefl _
  due row member time later := by
    obtain ⟨before, -, rfl⟩ := List.mem_map.1 member
    obtain ⟨_, -, rfl⟩ := List.mem_map.1 later
    rw [created]
    exact String.lt_irrefl _

namespace Database

/-- The database with the times of sessions, stories and votes left out. -/
def untimed (db : Database) : Database :=
  { db with
    sessions := db.sessions.map SessionRow.untimed
    stories := db.stories.map StoryRow.untimed
    votes := db.votes.map VoteRow.untimed }

section Calls

variable {now : Instant} {times : List Instant} {db : Database}

theorem board_untimed (db : Database) : board db.untimed = (board db).untimed := by
  simp only [board, untimed, Table.map, Board.untimed, List.map_map, Function.comp_def,
    SessionRow.session_untimed, StoryRow.story_untimed, VoteRow.vote_untimed]

theorem pokerSound_untimed (sound : PokerSound times db) :
    PokerSound (times.map fun _ => .epoch) db.untimed where
  opened := sound.opened
  steady := steady_epoch times
  sessions := sound.sessions.untimed (fun _ => rfl) fun _ => rfl
  stories := sound.stories.untimed (fun _ => rfl) fun _ => rfl
  votes := sound.votes.untimed (fun _ => rfl) fun _ => rfl
  estimation_real row member := by
    obtain ⟨before, old, rfl⟩ := List.mem_map.1 member
    exact sound.estimation_real before old
  value_real row member := by
    obtain ⟨before, old, rfl⟩ := List.mem_map.1 member
    exact sound.value_real before old

/-- A statement to an open pool. -/
theorem untimes_statement {α : Type} {use : α → α} {now epoch : Act Database α}
    (sound : PokerSound times db) (untimes : Untimes untimed use now epoch db) :
    Untimes untimed use (statement now) (statement epoch) db := by
  unfold Untimes at untimes ⊢
  rw [run_statement sound, run_statement (pokerSound_untimed sound)]
  exact untimes

/-- A story for a session that there is not is refused. -/
theorem startStory_of_unknown (sound : PokerSound times db) {sessionId : Int}
    (unknown : sessionId ∉ (board db).sessionIds) (now : Instant) (title : String) :
    startStory now sessionId title db =
      (.error (.storage (.database (.refused .foreignKey))), db) :=
  (run_statement sound).trans (if_neg fun found => unknown (mem_sessionIds_iff.2 found))

/-- A vote on a story that there is not is refused, as its number may be. -/
theorem castVote_of_unknown (sound : PokerSound times db) {storyId : Int}
    (unknown : storyId ∉ (board db).storyIds) (now : Instant) (user value : String) :
    (castVote now storyId user value db).2 = db := by
  unfold castVote
  cases parseNumber "vote" value with
  | error error => rfl
  | ok number =>
      have read : (ExceptT.mk (pure (.ok number)) : Act Database Number) db = (.ok number, db) :=
        rfl
      rw [run_bind_of_ok read, run_statement sound,
        if_neg fun found => unknown (mem_storyIds_iff.2 found)]

/-- A number is read before the database is asked. -/
theorem untimes_number {α : Type} {use : α → α} {parsed : Except StoreError Number}
    {now epoch : Number → Act Database α} {db : Database}
    (untimes : ∀ number, Untimes untimed use (now number) (epoch number) db) :
    Untimes untimed use (do
        let number ← ExceptT.mk (pure parsed)
        now number) (do
        let number ← ExceptT.mk (pure parsed)
        epoch number) db := by
  cases parsed with
  | error error => rfl
  | ok number => exact untimes number

end Calls

/-- The poker store in the database works the same at any time. -/
def pokerTimeless : Timeless pokerFaithful where
  untimed := untimed
  board_untimed := board_untimed
  sound_untimed := pokerSound_untimed
  startSession sound _ _ _ := by
    refine untimes_statement sound ?_
    simp only [Untimes, untimed]
    rw [Table.map_insert fun _ => rfl]
    rfl
  startStory {_ _ db} sound sessionId _ := by
    refine untimes_statement sound ?_
    have known : (db.untimed.sessions.rows.any fun row => row.id == sessionId) =
        db.sessions.rows.any fun row => row.id == sessionId := List.any_map
    simp only [Untimes, known]
    split
    · simp only [untimed]
      rw [Table.map_insert fun _ => rfl]
      rfl
    · rfl
  castVote {_ _ db} sound storyId _ _ := by
    refine untimes_number fun number => untimes_statement sound ?_
    have known : (db.untimed.stories.rows.any fun row => row.id == storyId) =
        db.stories.rows.any fun row => row.id == storyId := List.any_map
    simp only [Untimes, known]
    split
    · simp only [untimed]
      rw [Table.map_insert fun _ => rfl]
      rfl
    · rfl
  setEstimation {_ db} sound storyId _ := by
    refine untimes_number fun number => untimes_statement sound ?_
    have estimated : (db.stories.update (·.id == storyId) fun row =>
          { row with estimation := some (Cell.ofNumber number) }).map StoryRow.untimed =
        (db.stories.map StoryRow.untimed).update (·.id == storyId) fun row =>
          { row with estimation := some (Cell.ofNumber number) } := by
      apply Table.map_update <;> exact fun _ => rfl
    simp only [Untimes, untimed, estimated]
    rfl
  finishSession {now _ db} sound sessionId := by
    refine untimes_statement sound ?_
    have finished : (db.sessions.update (·.id == sessionId) fun row =>
          { row with finishedAt := some now.toText }).map SessionRow.untimed =
        (db.sessions.map SessionRow.untimed).update (·.id == sessionId) fun row =>
          { row with finishedAt := some Instant.epoch.toText } := by
      apply Table.map_update <;> exact fun _ => rfl
    simp only [Untimes, untimed, finished]
    rfl
  sound_startStory {now _ db} sound _ unknown title := by
    have refused : pokerBackend.startStory now _ title db = _ :=
      startStory_of_unknown sound unknown now title
    rw [refused]
    exact sound.tail
  sound_castVote {now _ db} sound _ unknown user value := by
    have refused : (pokerBackend.castVote now _ user value db).2 = db :=
      castVote_of_unknown sound unknown now user value
    rw [refused]
    exact sound.tail

end Database

end ChatRobots
