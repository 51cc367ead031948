/-
Module: ChatRobots.Proofs.Poker.Untimed
Purpose: What calls of a poker store answer does not depend on when they are made, but for the times
  in it.
Main exports: Instant.epoch, Board.untimed, CallAnswer.untimed, Timeless, Timeless.sound_runAll,
  Timeless.run_call, Timeless.runAll_epoch, Timeless.answers_eq
-/
import ChatRobots.Proofs.Poker.Faithful
import ChatRobots.Proofs.Poker.Lifecycle

namespace ChatRobots

/-!
To leave the times out of an answer is to put one fixed time in the place of each.  A store is
timeless when this commutes with its calls: a call made now, and then looked at without times, is
the call made at the fixed time of a store that was looked at without times before.  So two runs of
the same calls both come to the run in which every call is made at the fixed time.
-/

theorem Calendar.isDate_epoch : IsDate 1970 1 1 := by
  decide

/-- The fixed time that stands for all others. -/
def Instant.epoch : Instant :=
  ⟨⟨1970, 1, 1, Calendar.isDate_epoch⟩, 0, 0⟩

namespace Poker

/-- The session with its times left out; whether it is finished stays. -/
def Session.untimed (session : Session) : Session :=
  { session with createdAt := .epoch, finishedAt := session.finishedAt.map fun _ => .epoch }

def Story.untimed (story : Story) : Story :=
  { story with createdAt := .epoch }

def Vote.untimed (vote : Vote) : Vote :=
  { vote with createdAt := .epoch }

/-- The answer with its times left out. -/
def CallAnswer.untimed : CallAnswer → CallAnswer
  | session answer => .session answer.untimed
  | session? answer => .session? (answer.map Session.untimed)
  | story answer => .story answer.untimed
  | story? answer => .story? (answer.map Story.untimed)
  | vote answer => .vote answer.untimed
  | votes answer => .votes (answer.map Vote.untimed)
  | done => .done
  | stories answer => .stories (answer.map Story.untimed)

namespace Board

/-- The board with the times of its rows left out. -/
def untimed (board : Board) : Board :=
  ⟨board.sessions.map Session.untimed, board.stories.map Story.untimed,
    board.votes.map Vote.untimed⟩

section Untimed

variable (board : Board)

theorem currentSession_untimed (channel : String) :
    board.untimed.currentSession channel = (board.currentSession channel).map Session.untimed := by
  have open_untimed (session : Session) :
      session.untimed.finishedAt.isNone = session.finishedAt.isNone := by simp [Session.untimed]
  simp only [currentSession, untimed, List.filter_map, List.getLast?_map, Function.comp_def,
    open_untimed]
  rfl

theorem currentStory_untimed (sessionId : Int) :
    board.untimed.currentStory sessionId = (board.currentStory sessionId).map Story.untimed := by
  simp only [currentStory, untimed, List.filter_map, List.getLast?_map]
  rfl

theorem storiesOf_untimed (sessionId : Int) :
    board.untimed.storiesOf sessionId = (board.storiesOf sessionId).map Story.untimed := by
  simp only [storiesOf, untimed, List.filter_map]
  rfl

theorem estimatedOf_untimed (sessionId : Int) :
    board.untimed.estimatedOf sessionId = (board.estimatedOf sessionId).map Story.untimed := by
  simp only [estimatedOf, untimed, List.filter_map]
  rfl

theorem votesOn_untimed (storyId : Int) :
    board.untimed.votesOn storyId = (board.votesOn storyId).map Vote.untimed := by
  simp only [votesOn, untimed, List.filter_map]
  rfl

end Untimed

end Board

section Timeless

variable {σ : Type}

/-- What was done at some time is, without times, what was done at the fixed one. -/
def Untimes {α : Type} (untimed : σ → σ) (use : α → α) (now epoch : Act σ α) (s : σ) : Prop :=
  epoch (untimed s) = ((now s).1.map use, untimed (now s).2)

section Untimes

variable {α β : Type} {untimed : σ → σ} {use : α → α} {now epoch : Act σ α} {s : σ}

theorem Untimes.map (untimes : Untimes untimed use now epoch s) {wrap : α → β} {use' : β → β}
    (same : ∀ a, wrap (use a) = use' (wrap a)) :
    Untimes untimed use' (wrap <$> now) (wrap <$> epoch) s := by
  unfold Untimes at untimes ⊢
  rw [run_map, run_map, untimes]
  cases (now s).1 with
  | error error => rfl
  | ok a => exact congrArg (fun b => (Except.ok b, _)) (same a)

/-- A question that is answered from what the store shows. -/
theorem untimes_question {answer : α} (asked : now s = (.ok answer, s))
    (asked' : now (untimed s) = (.ok (use answer), untimed s)) : Untimes untimed use now now s := by
  unfold Untimes
  rw [asked, asked']
  rfl

end Untimes

/-- A store that does at any time what it does at the fixed one, but for the times. -/
structure Timeless {store : Backend σ} (faithful : Faithful store) where
  untimed : σ → σ
  board_untimed (s : σ) : faithful.board (untimed s) = (faithful.board s).untimed
  sound_untimed {times s} (sound : faithful.Sound times s) :
    faithful.Sound (times.map fun _ => .epoch) (untimed s)
  startSession {now times s} (sound : faithful.Sound (now :: times) s)
      (channel title csv : String) :
    Untimes untimed Session.untimed (store.startSession now channel title csv)
      (store.startSession .epoch channel title csv) s
  startStory {now times s} (sound : faithful.Sound (now :: times) s) (sessionId : Int)
      (title : String) :
    Untimes untimed Story.untimed (store.startStory now sessionId title)
      (store.startStory .epoch sessionId title) s
  castVote {now times s} (sound : faithful.Sound (now :: times) s) (storyId : Int)
      (user value : String) :
    Untimes untimed Vote.untimed (store.castVote now storyId user value)
      (store.castVote .epoch storyId user value) s
  setEstimation {times s} (sound : faithful.Sound times s) (storyId : Int) (hours : String) :
    Untimes untimed id (store.setEstimation storyId hours) (store.setEstimation storyId hours) s
  finishSession {now times s} (sound : faithful.Sound (now :: times) s) (sessionId : Int) :
    Untimes untimed id (store.finishSession now sessionId)
      (store.finishSession .epoch sessionId) s
  /-- A story for a session that there is not leaves the store sound. -/
  sound_startStory {now times s} (sound : faithful.Sound (now :: times) s) {sessionId : Int}
      (unknown : sessionId ∉ (faithful.board s).sessionIds) (title : String) :
    faithful.Sound times (store.startStory now sessionId title s).2
  /-- A vote on a story that there is not leaves the store sound. -/
  sound_castVote {now times s} (sound : faithful.Sound (now :: times) s) {storyId : Int}
      (unknown : storyId ∉ (faithful.board s).storyIds) (user value : String) :
    faithful.Sound times (store.castVote now storyId user value s).2

namespace Timeless

variable {store : Backend σ} {faithful : Faithful store} (timeless : Timeless faithful)
  {now : Instant} {times : List Instant} {s : σ}

include timeless

/-- Every call leaves the store sound for the times after it. -/
theorem sound_call (sound : faithful.Sound (now :: times) s) (call : Call) :
    faithful.Sound times (call.run store now s).2 := by
  have tail := faithful.sound_tail sound
  have question {α : Type} {act : Act σ α} {answer : α} (asked : act s = (.ok answer, s))
      (use : α → CallAnswer) : faithful.Sound times ((use <$> act) s).2 := by
    rw [run_map_of_ok asked]
    exact tail
  cases call with
  | startSession channel title csv =>
      obtain ⟨_, after, started, writes⟩ := faithful.startSession sound channel title csv
      rw [Call.run, run_map, started]
      exact writes.sound
  | currentSession channel => exact question (faithful.currentSession sound channel) _
  | startStory sessionId title =>
      rw [Call.run, run_map]
      by_cases known : sessionId ∈ (faithful.board s).sessionIds
      · obtain ⟨_, after, started, writes⟩ := faithful.startStory sound known title
        rw [started]
        exact writes.sound
      · exact timeless.sound_startStory sound known title
  | currentStory sessionId => exact question (faithful.currentStory sound sessionId) _
  | castVote storyId user value =>
      rw [Call.run, run_map]
      by_cases known : storyId ∈ (faithful.board s).storyIds
      · cases parsed : parseNumber "vote" value with
        | error error =>
            rw [faithful.castVote_error sound now storyId user parsed]
            exact tail
        | ok number =>
            obtain ⟨_, after, cast, writes⟩ := faithful.castVote sound known user parsed
            rw [cast]
            exact writes.sound
      · exact timeless.sound_castVote sound known user value
  | votesFor storyId => exact question (faithful.votesFor sound storyId) _
  | setEstimation storyId hours =>
      rw [Call.run, run_map]
      cases parsed : parseNumber "estimation" hours with
      | error error =>
          rw [faithful.setEstimation_error sound storyId parsed]
          exact tail
      | ok number =>
          obtain ⟨_, after, estimated, writes⟩ :=
            faithful.setEstimation tail now storyId parsed
          rw [estimated]
          exact writes.sound
  | finishSession sessionId =>
      obtain ⟨_, after, finished, writes⟩ := faithful.finishSession tail now sessionId
      rw [Call.run, run_map, finished]
      exact writes.sound
  | storiesFor sessionId => exact question (faithful.storiesFor sound sessionId) _
  | estimatedStoriesFor sessionId => exact question (faithful.estimatedStoriesFor sound sessionId) _

/-- A run of calls leaves the store sound for the times after it. -/
theorem sound_runAll {calls : List (Instant × Call)}
    (sound : faithful.Sound (calls.map (·.1) ++ times) s) :
    faithful.Sound times (Call.runAll store calls s).2 := by
  induction calls generalizing s with
  | nil => exact sound
  | cons first rest ih =>
      obtain ⟨now, call⟩ := first
      exact ih (timeless.sound_call sound call)

/-- Every call does at any time what it does at the fixed one. -/
theorem run_call (sound : faithful.Sound (now :: times) s) (call : Call) :
    Untimes timeless.untimed CallAnswer.untimed (call.run store now) (call.run store .epoch) s := by
  have sound' := timeless.sound_untimed sound
  have board := timeless.board_untimed s
  cases call with
  | startSession channel title csv =>
      exact (timeless.startSession sound channel title csv).map fun _ => rfl
  | currentSession channel =>
      have later := faithful.currentSession sound' channel
      rw [board, Board.currentSession_untimed] at later
      exact (untimes_question (faithful.currentSession sound channel) later).map fun _ => rfl
  | startStory sessionId title =>
      exact (timeless.startStory sound sessionId title).map fun _ => rfl
  | currentStory sessionId =>
      have later := faithful.currentStory sound' sessionId
      rw [board, Board.currentStory_untimed] at later
      exact (untimes_question (faithful.currentStory sound sessionId) later).map fun _ => rfl
  | castVote storyId user value =>
      exact (timeless.castVote sound storyId user value).map fun _ => rfl
  | votesFor storyId =>
      have later := faithful.votesFor sound' storyId
      rw [board, Board.votesOn_untimed] at later
      exact (untimes_question (faithful.votesFor sound storyId) later).map fun _ => rfl
  | setEstimation storyId hours =>
      exact (timeless.setEstimation sound storyId hours).map fun _ => rfl
  | finishSession sessionId =>
      exact (timeless.finishSession sound sessionId).map fun _ => rfl
  | storiesFor sessionId =>
      have later := faithful.storiesFor sound' sessionId
      rw [board, Board.storiesOf_untimed] at later
      exact (untimes_question (faithful.storiesFor sound sessionId) later).map fun _ => rfl
  | estimatedStoriesFor sessionId =>
      have later := faithful.estimatedStoriesFor sound' sessionId
      rw [board, Board.estimatedOf_untimed] at later
      exact (untimes_question (faithful.estimatedStoriesFor sound sessionId) later).map
        fun _ => rfl

/-- A run of calls answers, without times, what it answers when every call is made at the fixed
time. -/
theorem runAll_epoch {calls : List (Instant × Call)}
    (sound : faithful.Sound (calls.map (·.1)) s) :
    (Call.runAll store (calls.map fun (_, call) => (.epoch, call)) (timeless.untimed s)).1 =
      (Call.runAll store calls s).1.map (·.map CallAnswer.untimed) := by
  induction calls generalizing s with
  | nil => rfl
  | cons first rest ih =>
      obtain ⟨now, call⟩ := first
      have same : call.run store .epoch (timeless.untimed s) = _ := timeless.run_call sound call
      simp only [Call.runAll, List.map_cons, Act.runAll_cons, same]
      exact congrArg _ (ih (timeless.sound_call sound call))

/-- The same calls made at other times get the same answers, but for the times. -/
theorem answers_eq {calls again : List (Instant × Call)}
    (sound : faithful.Sound (calls.map (·.1)) s) (sound' : faithful.Sound (again.map (·.1)) s)
    (same : again.map (·.2) = calls.map (·.2)) :
    (Call.runAll store again s).1.map (·.map CallAnswer.untimed) =
      (Call.runAll store calls s).1.map (·.map CallAnswer.untimed) := by
  have retimed (runs : List (Instant × Call)) :
      runs.map (fun (_, call) => (Instant.epoch, call)) =
        (runs.map (·.2)).map fun call => (Instant.epoch, call) := by
    rw [List.map_map]
    rfl
  rw [← timeless.runAll_epoch sound, ← timeless.runAll_epoch sound', retimed, retimed, same]

end Timeless

end Timeless

end Poker

end ChatRobots
