/-
Module: ChatRobots.Proofs.Poker.Medium
Purpose: The two kinds of poker store as one family.
Main exports: Medium, Medium.backend, Medium.empty, Medium.Admits, Medium.faithful,
  Medium.after, Medium.run_after
-/
import ChatRobots.Proofs.Database.PokerBoard
import ChatRobots.Proofs.Poker.MemoryBoard
import ChatRobots.Proofs.Poker.Runs

namespace ChatRobots.Poker

/-!
The game is played over a store in memory or over one in the database.  What holds of both is
stated over the medium.  In memory the times of a run may be any; the database orders its rows by
the texts of their times, so there the times at which rows are inserted have to be readings of a
clock that never goes back.
-/

/-- Where a poker store lives. -/
inductive Medium where
  | memory
  | database
deriving DecidableEq, Repr

namespace Medium

abbrev State : Medium → Type
  | memory => Memory
  | database => Database

def backend : (medium : Medium) → Backend medium.State
  | memory => Memory.backend
  | database => Database.pokerBackend

/-- The store before anything was written to it. -/
def empty : (medium : Medium) → medium.State
  | memory => ({} : Memory)
  | database => ({} : Database)

/-- Rows may be inserted at these times, one after another. -/
def Admits : Medium → List Instant → Prop
  | memory, _ => True
  | database, times => Steady times

instance : (medium : Medium) → (times : List Instant) → Decidable (medium.Admits times)
  | memory, _ => inferInstanceAs (Decidable True)
  | database, times => inferInstanceAs (Decidable (Steady times))

def faithful : (medium : Medium) → Faithful medium.backend
  | memory => Memory.faithful
  | database => Database.pokerFaithful

/-- What the store holds. -/
abbrev board (medium : Medium) : medium.State → Board :=
  medium.faithful.board

@[simp] theorem board_empty (medium : Medium) : medium.board medium.empty = {} := by
  cases medium <;> rfl

/-- An empty store is sound for every schedule that its medium admits. -/
theorem sound_empty {medium : Medium} {times : List Instant} (admits : medium.Admits times) :
    medium.faithful.Sound times medium.empty := by
  cases medium with
  | memory => exact Memory.healthy_empty
  | database => exact Database.pokerSound_empty admits

theorem admits_of_append {medium : Medium} {times more : List Instant}
    (admits : medium.Admits (times ++ more)) : medium.Admits times := by
  cases medium with
  | memory => trivial
  | database => exact Steady.sublist (List.sublist_append_left times more) admits

/-- A game that has not begun. -/
def opening (medium : Medium) : Round medium.State :=
  ⟨medium.empty, [], []⟩

/-- What is read back of a session that was just inserted. -/
def keptSession (medium : Medium) (session : Session) : Session :=
  { session with createdAt := medium.faithful.keeping.time session.createdAt }

/-- What is read back of a story that was just inserted. -/
def keptStory (medium : Medium) (story : Story) : Story :=
  { story with createdAt := medium.faithful.keeping.time story.createdAt }

/-- What is read back of a vote that was just inserted. -/
def keptVote (medium : Medium) (vote : Vote) : Vote :=
  { vote with
    value := medium.faithful.keeping.number vote.value
    createdAt := medium.faithful.keeping.time vote.createdAt }

/-- The round after these moves. -/
def after (medium : Medium) (moves : List (Instant × Move)) : Round medium.State :=
  (medium.opening.playAll medium.backend moves).2

/-- The times at which rows are inserted during these moves, one after another. -/
def insertions (medium : Medium) (moves : List (Instant × Move)) : List Instant :=
  medium.faithful.schedule moves medium.opening

/-- The moves with the answers that they got. -/
def history (medium : Medium) (moves : List (Instant × Move)) : List (Move × Answer) :=
  medium.opening.history medium.backend moves

/-- The answers to these moves. -/
def answers (medium : Medium) (moves : List (Instant × Move)) : List Answer :=
  (medium.opening.playAll medium.backend moves).1

section Runs

variable {medium : Medium} {moves : List (Instant × Move)} {times : List Instant}

/-- The game is a run over the board, which is empty at first. -/
theorem run_after (admits : medium.Admits (medium.insertions moves ++ times)) :
    Round.Run medium.faithful.keeping ⟨{}, [], []⟩ (medium.history moves)
        (medium.faithful.view (medium.after moves)) ∧
      medium.faithful.Sound times (medium.after moves).store := by
  have opened : medium.faithful.view medium.opening = ⟨{}, [], []⟩ := by
    simp [Faithful.view, opening]
  have run := medium.faithful.run_playAll (sound_empty admits)
    (opened ▸ Round.consistent_empty)
  rwa [opened] at run

/-- After the run nothing more needs to be inserted. -/
theorem run_after_nil (admits : medium.Admits (medium.insertions moves)) :
    Round.Run medium.faithful.keeping ⟨{}, [], []⟩ (medium.history moves)
        (medium.faithful.view (medium.after moves)) ∧
      medium.faithful.Sound [] (medium.after moves).store :=
  run_after ((List.append_nil (medium.insertions moves)).symm ▸ admits)

/-- It is enough that the clock never goes back from move to move. -/
theorem admits_of_clock (medium : Medium) (clock : Steady (moves.map (·.1))) :
    medium.Admits (medium.insertions moves) := by
  cases medium with
  | memory => trivial
  | database => exact clock.sublist (database.faithful.schedule_sublist moves database.opening)

theorem consistent_after (admits : medium.Admits (medium.insertions moves)) :
    (medium.faithful.view (medium.after moves)).Consistent :=
  (run_after_nil admits).1.consistent Round.consistent_empty

/-- The story at a place is on the board. -/
theorem known_of_started {place : Nat} {story : Story}
    (admits : medium.Admits (medium.insertions moves))
    (started : ((medium.after moves).stories.map (·.id))[place]? = some story.id) :
    story.id ∈ (medium.board (medium.after moves).store).storyIds := by
  have consistent := consistent_after admits
  exact consistent.storyIds ▸ List.mem_of_getElem? started

section Continued

variable (medium : Medium) (moves more : List (Instant × Move))

theorem after_append :
    medium.after (moves ++ more) = ((medium.after moves).playAll medium.backend more).2 := by
  rw [after, Round.playAll_append]
  rfl

theorem history_append :
    medium.history (moves ++ more) =
      medium.history moves ++ (medium.after moves).history medium.backend more :=
  Round.history_append medium.backend medium.opening moves more

theorem insertions_append :
    medium.insertions (moves ++ more) =
      medium.insertions moves ++ medium.faithful.schedule more (medium.after moves) :=
  medium.faithful.schedule_append moves more medium.opening

end Continued

/-- A run that was admitted was admitted at every point of it. -/
theorem admits_before {more : List (Instant × Move)}
    (admits : medium.Admits (medium.insertions (moves ++ more))) :
    medium.Admits (medium.insertions moves) :=
  admits_of_append (insertions_append medium moves more ▸ admits)

/-- The run goes on over the board. -/
theorem run_more {more : List (Instant × Move)}
    (admits : medium.Admits (medium.insertions (moves ++ more))) :
    Round.Run medium.faithful.keeping (medium.faithful.view (medium.after moves))
      ((medium.after moves).history medium.backend more)
      (medium.faithful.view (medium.after (moves ++ more))) := by
  have consistent := consistent_after (admits_before admits)
  rw [insertions_append] at admits
  have sound := (run_after admits).2
  rw [← List.append_nil (medium.faithful.schedule more _)] at sound
  rw [after_append]
  exact (medium.faithful.run_playAll sound consistent).1

end Runs

section Sprint

def noon : Instant :=
  ⟨⟨2026, 7, 4, by decide⟩, 43200, 0⟩

/-- The session of a short game. -/
def sprintSession : Session :=
  ⟨1, "eng", "Sprint", ⟨["ann", "bob"]⟩, noon, none⟩

/-- Its first story. -/
def sprintStory : Story :=
  ⟨2, 1, "Login", none, noon⟩

/-- A short game: a story is voted on and estimated, and a second one starts after its session was
finished. -/
def sprint : List (Instant × Move) :=
  [(noon, .startSession "eng" "Sprint" "ann, bob"), (noon, .startStory 0 "Login"),
    (noon, .startStory 0 "Logout"), (noon, .castVote 0 0 "ann" "3"),
    (noon, .setEstimation 0 "4"), (noon, .finish 0), (noon, .startStory 0 "Signup")]

end Sprint

end Medium

end ChatRobots.Poker
