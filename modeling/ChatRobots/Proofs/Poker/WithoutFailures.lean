/-
Module: ChatRobots.Proofs.Poker.WithoutFailures
Purpose: Calls of a poker store that fail leave no trace in what the others answer.
Main exports: Call.succeeded, Backend.Careful.runAll_succeeded, Medium.timeless,
  Medium.failed_calls_leave_no_trace
-/
import ChatRobots.Proofs.Database.PokerUntimed
import ChatRobots.Proofs.Poker.AppendOnly
import ChatRobots.Proofs.Poker.FailedCalls
import ChatRobots.Proofs.Poker.MemoryUntimed

namespace ChatRobots.Poker

/-!
A call that fails gives out no id and writes no row, so the calls after it find the store as if it
had not been made.  Made again without the calls that failed, a run comes to the same answers and to
the same store.  In practice the second run is made at other times than the first one; then the
answers are the same but for the times, as long as both clocks never go back.
-/

section Runs

variable {σ : Type} {store : Backend σ}

/-- The calls that did not fail. -/
def Call.succeeded (store : Backend σ) (calls : List (Instant × Call)) (s : σ) :
    List (Instant × Call) :=
  ((calls.zip (Call.runAll store calls s).1).filter (·.2.isOk)).map (·.1)

variable {now : Instant} {call : Call} {before after : σ}

theorem Call.succeeded_of_ok {answer : CallAnswer}
    (ran : call.run store now before = (.ok answer, after)) (rest : List (Instant × Call)) :
    Call.succeeded store ((now, call) :: rest) before =
      (now, call) :: Call.succeeded store rest after := by
  rw [succeeded, runAll, Act.runAll_cons, ran]
  rfl

theorem Call.succeeded_of_error {error : StoreError}
    (ran : call.run store now before = (.error error, after)) (rest : List (Instant × Call)) :
    Call.succeeded store ((now, call) :: rest) before = Call.succeeded store rest after := by
  rw [succeeded, runAll, Act.runAll_cons, ran]
  rfl

theorem Call.succeeded_sublist (store : Backend σ) (calls : List (Instant × Call)) (s : σ) :
    (Call.succeeded store calls s).Sublist calls := by
  induction calls generalizing s with
  | nil => exact .slnil
  | cons first rest ih =>
      obtain ⟨now, call⟩ := first
      generalize ran : call.run store now s = step
      obtain ⟨result, after⟩ := step
      cases result with
      | error error =>
          rw [Call.succeeded_of_error ran]
          exact (ih after).cons _
      | ok answer =>
          rw [Call.succeeded_of_ok ran]
          exact (ih after).cons_cons _

variable (careful : store.Careful)
include careful

/-- A call that fails changes nothing. -/
theorem Backend.Careful.clean_call (now : Instant) (call : Call) : Clean (call.run store now) := by
  cases call with
  | startSession channel title csv => exact (careful.startSession now channel title csv).map _
  | currentSession channel => exact (clean_of_moves (careful.reads.currentSession channel)).map _
  | startStory sessionId title => exact (careful.startStory now sessionId title).map _
  | currentStory sessionId => exact (clean_of_moves (careful.reads.currentStory sessionId)).map _
  | castVote storyId user value => exact (careful.castVote now storyId user value).map _
  | votesFor storyId => exact (clean_of_moves (careful.reads.votesFor storyId)).map _
  | setEstimation storyId hours => exact (careful.setEstimation storyId hours).map _
  | finishSession sessionId => exact (careful.finishSession now sessionId).map _
  | storiesFor sessionId => exact (clean_of_moves (careful.reads.storiesFor sessionId)).map _
  | estimatedStoriesFor sessionId =>
      exact (clean_of_moves (careful.reads.estimatedStoriesFor sessionId)).map _

/-- Without the calls that fail, the others answer the same and lead to the same store. -/
theorem Backend.Careful.runAll_succeeded (calls : List (Instant × Call)) (s : σ) :
    Call.runAll store (Call.succeeded store calls s) s =
      ((Call.runAll store calls s).1.filter (·.isOk), (Call.runAll store calls s).2) := by
  simp only [Call.runAll]
  induction calls generalizing s with
  | nil => rfl
  | cons first rest ih =>
      obtain ⟨now, call⟩ := first
      rw [Act.runAll_cons]
      generalize ran : call.run store now s = step
      obtain ⟨result, after⟩ := step
      cases result with
      | error error =>
          obtain rfl : after = s := careful.clean_call now call ran
          rw [Call.succeeded_of_error ran, ih]
          rfl
      | ok answer =>
          rw [Call.succeeded_of_ok ran, Act.runAll_cons, ran, ih]
          rfl

end Runs

namespace Medium

def timeless : (medium : Medium) → Timeless medium.faithful
  | memory => Memory.timeless
  | database => Database.pokerTimeless

/-- Fewer insertions are admitted as well. -/
theorem admits_sublist {medium : Medium} {times fewer : List Instant} (part : fewer.Sublist times)
    (admits : medium.Admits times) : medium.Admits fewer := by
  cases medium with
  | memory => trivial
  | database => exact Steady.sublist part admits

/-- A number that was refused is the error of the call. -/
theorem refused_number (medium : Medium) (calls : List (Instant × Call)) {text : String}
    (unread : Number.ofText? text = none) (now : Instant) (storyId : Int) (user : String) :
    let store := medium.afterCalls calls
    (Call.castVote storyId user text).run medium.backend now store =
        (.error (.invalidNumber "vote" text), store) ∧
      (Call.setEstimation storyId text).run medium.backend now store =
        (.error (.invalidNumber "estimation" text), store) := by
  intro store
  have refused (field : String) : parseNumber field text = .error (.invalidNumber field text) := by
    rw [parseNumber, unread]
  have sound : medium.books.Sound store := medium.sound_afterCalls calls
  have cast : medium.backend.castVote now storyId user text store =
      (.error (.invalidNumber "vote" text), store) := by
    cases medium with
    | memory =>
        have healthy : Memory.faithful.Sound [] store := sound
        exact Memory.faithful.castVote_error healthy now storyId user (refused "vote")
    | database => exact run_bind_of_error (by rw [refused]; rfl)
  have estimated : medium.backend.setEstimation storyId text store =
      (.error (.invalidNumber "estimation" text), store) := by
    cases medium with
    | memory =>
        have healthy : Memory.faithful.Sound [] store := sound
        exact Memory.faithful.setEstimation_error healthy storyId (refused "estimation")
    | database => exact run_bind_of_error (by rw [refused]; rfl)
  rw [Call.run, Call.run, run_map, run_map, cast, estimated]
  exact ⟨rfl, rfl⟩

/-- Calls that fail leave no trace.  Without them, a run from any state gives the other answers and
leads to the same state; and made again from the beginning at other times, the calls that did not
fail get the same answers as before, ids included, but for the times in them.  A text that is no
number fails with its field and just as it was given, whatever story it was meant for. -/
theorem failed_calls_leave_no_trace (medium : Medium) (calls : List (Instant × Call)) :
    (∀ store : medium.State,
      Call.runAll medium.backend (Call.succeeded medium.backend calls store) store =
        ((Call.runAll medium.backend calls store).1.filter (·.isOk),
          (Call.runAll medium.backend calls store).2)) ∧
    (∀ again : List (Instant × Call),
      again.map (·.2) = (Call.succeeded medium.backend calls medium.empty).map (·.2) →
      medium.Admits (calls.map (·.1)) → medium.Admits (again.map (·.1)) →
        (medium.callAnswers again).map (·.map CallAnswer.untimed) =
          ((medium.callAnswers calls).filter (·.isOk)).map (·.map CallAnswer.untimed)) ∧
    ∀ text, Number.ofText? text = none → ∀ (now : Instant) (storyId : Int) (user : String),
      let store := medium.afterCalls calls
      (Call.castVote storyId user text).run medium.backend now store =
          (.error (.invalidNumber "vote" text), store) ∧
        (Call.setEstimation storyId text).run medium.backend now store =
          (.error (.invalidNumber "estimation" text), store) := by
  have deleted := medium.careful.runAll_succeeded calls
  refine ⟨deleted, ?retimed, fun text unread now storyId user =>
    medium.refused_number calls unread now storyId user⟩
  case retimed =>
    intro again same admits admits'
    have part := (Call.succeeded_sublist medium.backend calls medium.empty).map (·.1)
    have answered := medium.timeless.answers_eq (sound_empty (admits_sublist part admits))
      (sound_empty admits') same
    rw [deleted] at answered
    exact answered

/-- A second after noon. -/
def pastNoon : Instant :=
  { noon with second := noon.second + 1 }

/-- A story is started for a session that there is not, and a vote is cast that is no number and one
on a story that there is not, before all goes well. -/
def hesitant : List (Instant × Call) :=
  [(noon, .startSession "eng" "Sprint" "ann"), (noon, .startStory 7 "Lost"),
    (noon, .startStory 1 "Login"), (noon, .castVote 1 "ann" "three"), (noon, .castVote 9 "ann" "3"),
    (noon, .castVote 1 "ann" "3"), (noon, .votesFor 1)]

/-- All goes well at once, a second later. -/
def resolute : List (Instant × Call) :=
  [(pastNoon, .startSession "eng" "Sprint" "ann"), (pastNoon, .startStory 1 "Login"),
    (pastNoon, .castVote 1 "ann" "3"), (pastNoon, .votesFor 1)]

/-- The calls that the database refused have left no gap in the ids. -/
theorem resolute_answered_alike :
    (database.callAnswers hesitant).map (·.isOk) =
        [true, false, true, false, false, true, true] ∧
      (database.callAnswers resolute).map (·.map CallAnswer.untimed) =
        ((database.callAnswers hesitant).filter (·.isOk)).map (·.map CallAnswer.untimed) := by
  refine ⟨by decide +kernel, ?_⟩
  obtain ⟨-, retimed, -⟩ := failed_calls_leave_no_trace database hesitant
  exact retimed resolute (by decide +kernel) (by decide) (by decide)

end Medium

end ChatRobots.Poker
