/-
Module: ChatRobots.Proofs.Poker.Faithful
Purpose: What it means that a store shows a board, and what the table then answers.
Main exports: Writes, Faithful, Faithful.run_startStory_of_pending, Faithful.run_startStory,
  Faithful.run_castVote, Faithful.run_status, Faithful.run_snapshot
-/
import ChatRobots.Proofs.Action
import ChatRobots.Proofs.Poker.Board

namespace ChatRobots.Poker

/-!
A store is faithful when each of its states shows a board such that every question is answered
from the board and every call that writes makes one change of it.  This holds of states that are
sound, and a state is sound for a schedule: the times, in order, at which rows will be inserted.
An insertion takes place at the first time of the schedule and leaves the others.

The rules of the table are proved over any faithful store; nothing below looks into one.
-/

variable {σ : Type}

/-- One change was written: the row has a fresh id, and the store is sound for what is left. -/
structure Writes (board : σ → Board) (keeping : Keeping) (Sound : List Instant → σ → Prop)
    (now : Instant) (times : List Instant) (change : Change) (id : Int) (before after : σ) :
    Prop where
  fresh : change.Fresh id (board before)
  board_eq : board after = (board before).apply keeping now id change
  sound : Sound times after

/-- A store whose sound states show a board. -/
structure Faithful (store : Backend σ) where
  board : σ → Board
  keeping : Keeping
  /-- The state is in order, and rows may be inserted at these times, one after another. -/
  Sound : List Instant → σ → Prop
  sound_tail {now times s} : Sound (now :: times) s → Sound times s
  startSession {now times s} (sound : Sound (now :: times) s) (channel title csv : String) :
    ∃ id s', store.startSession now channel title csv s =
        (.ok ⟨id, channel, title, .ofCsv csv, now, none⟩, s') ∧
      Writes board keeping Sound now times (.session channel title (.ofCsv csv)) id s s'
  currentSession {times s} (sound : Sound times s) (channel : String) :
    store.currentSession channel s = (.ok ((board s).currentSession channel), s)
  startStory {now times s} (sound : Sound (now :: times) s) {sessionId : Int}
      (known : sessionId ∈ (board s).sessionIds) (title : String) :
    ∃ id s', store.startStory now sessionId title s =
        (.ok ⟨id, sessionId, title, none, now⟩, s') ∧
      Writes board keeping Sound now times (.story sessionId title) id s s'
  currentStory {times s} (sound : Sound times s) (sessionId : Int) :
    store.currentStory sessionId s = (.ok ((board s).currentStory sessionId), s)
  castVote {now times s} (sound : Sound (now :: times) s) {storyId : Int}
      (known : storyId ∈ (board s).storyIds) (user : String) {value : String} {number : Number}
      (parsed : parseNumber "vote" value = .ok number) :
    ∃ id s', store.castVote now storyId user value s =
        (.ok ⟨id, storyId, user, number, now⟩, s') ∧
      Writes board keeping Sound now times (.vote storyId user number) id s s'
  castVote_error {times s} (sound : Sound times s) (now : Instant) (storyId : Int) (user : String)
      {value : String} {error : StoreError} (refused : parseNumber "vote" value = .error error) :
    store.castVote now storyId user value s = (.error error, s)
  votesFor {times s} (sound : Sound times s) (storyId : Int) :
    store.votesFor storyId s = (.ok ((board s).votesOn storyId), s)
  setEstimation {times s} (sound : Sound times s) (now : Instant) (storyId : Int)
      {hours : String} {number : Number} (parsed : parseNumber "estimation" hours = .ok number) :
    ∃ id s', store.setEstimation storyId hours s = (.ok (), s') ∧
      Writes board keeping Sound now times (.estimate storyId number) id s s'
  setEstimation_error {times s} (sound : Sound times s) (storyId : Int) {hours : String}
      {error : StoreError} (refused : parseNumber "estimation" hours = .error error) :
    store.setEstimation storyId hours s = (.error error, s)
  finishSession {times s} (sound : Sound times s) (now : Instant) (sessionId : Int) :
    ∃ id s', store.finishSession now sessionId s = (.ok (), s') ∧
      Writes board keeping Sound now times (.finish sessionId) id s s'
  storiesFor {times s} (sound : Sound times s) (sessionId : Int) :
    store.storiesFor sessionId s = (.ok ((board s).storiesOf sessionId), s)
  estimatedStoriesFor {times s} (sound : Sound times s) (sessionId : Int) :
    store.estimatedStoriesFor sessionId s = (.ok ((board s).estimatedOf sessionId), s)

namespace Faithful

variable {store : Backend σ} (faithful : Faithful store)

/-- One change was written to a faithful store. -/
abbrev Wrote (now : Instant) (times : List Instant) (change : Change) (id : Int)
    (before after : σ) : Prop :=
  Writes faithful.board faithful.keeping faithful.Sound now times change id before after

variable {now : Instant} {times : List Instant} {s : σ}

/-- A story that waits for its estimation keeps the next one from starting. -/
theorem run_startStory_of_pending (sound : faithful.Sound times s) {session : Session}
    {pending : Story} (waits : (faithful.board s).currentStory session.id = some pending)
    (title : String) :
    Table.startStory store now session title s = (.ok (.blocked pending), s) := by
  rw [Table.startStory, run_bind_of_ok (faithful.currentStory sound session.id), waits]
  rfl

/-- Without such a story the next one starts. -/
theorem run_startStory (sound : faithful.Sound (now :: times) s) {session : Session}
    (known : session.id ∈ (faithful.board s).sessionIds)
    (free : (faithful.board s).currentStory session.id = none) (title : String) :
    ∃ id s', Table.startStory store now session title s =
        (.ok (.started ⟨id, session.id, title, none, now⟩), s') ∧
      faithful.Wrote now times (.story session.id title) id s s' := by
  obtain ⟨id, s', started, wrote⟩ := faithful.startStory sound known title
  refine ⟨id, s', ?_, wrote⟩
  rw [Table.startStory, run_bind_of_ok (faithful.currentStory sound session.id), free]
  exact run_bind_of_ok started

/-- A vote is written, and the roster is checked against all votes with it among them. -/
theorem run_castVote (sound : faithful.Sound (now :: times) s) (session : Session) {story : Story}
    (known : story.id ∈ (faithful.board s).storyIds) (user : String) {value : String}
    {number : Number} (parsed : parseNumber "vote" value = .ok number) :
    ∃ id s', Table.castVote store now session story user value s =
        (.ok ⟨⟨id, story.id, user, number, now⟩,
          .ofVotes session.roster ((faithful.board s').votesOn story.id)⟩, s') ∧
      faithful.Wrote now times (.vote story.id user number) id s s' := by
  obtain ⟨id, s', cast, wrote⟩ := faithful.castVote sound known user parsed
  refine ⟨id, s', ?_, wrote⟩
  have votes := faithful.votesFor wrote.sound story.id
  rw [Table.castVote, run_bind_of_ok cast]
  unfold RosterCheck.ofVotes
  split
  · rfl
  · rw [run_bind_of_ok votes]
    split
    · exact run_bind_of_ok votes
    · rfl

theorem run_castVote_error (sound : faithful.Sound times s) (session : Session) (story : Story)
    (user : String) {value : String} {error : StoreError}
    (refused : parseNumber "vote" value = .error error) :
    Table.castVote store now session story user value s = (.error error, s) :=
  run_bind_of_error (faithful.castVote_error sound now story.id user refused)

theorem run_withVotes (sound : faithful.Sound times s) (story : Option Story) :
    Table.withVotes store story s =
      (.ok (story.map fun story => ⟨story, (faithful.board s).votesOn story.id⟩), s) := by
  cases story with
  | none => rfl
  | some story => exact run_bind_of_ok (faithful.votesFor sound story.id)

theorem run_status (sound : faithful.Sound times s) (channel : String) :
    Table.status store channel s = (.ok ((faithful.board s).status channel), s) := by
  rw [Table.status, Table.currentSession, run_bind_of_ok (faithful.currentSession sound channel),
    Board.status]
  cases (faithful.board s).currentSession channel with
  | none => rfl
  | some session =>
      simp only [Option.map_some]
      rw [Table.estimatedStories, run_bind_of_ok (faithful.estimatedStoriesFor sound session.id),
        Table.currentStory, run_bind_of_ok (faithful.currentStory sound session.id),
        run_bind_of_ok (faithful.run_withVotes sound _)]
      rfl

theorem run_snapshot (sound : faithful.Sound times s) (channel : String) :
    Table.snapshot store channel s = (.ok ((faithful.board s).snapshot channel), s) := by
  rw [Table.snapshot, Table.currentSession, run_bind_of_ok (faithful.currentSession sound channel),
    Board.snapshot]
  cases (faithful.board s).currentSession channel with
  | none => rfl
  | some session => exact run_bind_of_ok (faithful.storiesFor sound session.id)

end Faithful

end ChatRobots.Poker
