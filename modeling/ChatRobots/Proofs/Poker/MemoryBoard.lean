/-
Module: ChatRobots.Proofs.Poker.MemoryBoard
Purpose: The store in memory is faithful to its lists.
Main exports: Memory.Healthy, Memory.faithful
-/
import ChatRobots.Poker.Memory
import ChatRobots.Proofs.Poker.Faithful

namespace ChatRobots.Poker.Memory

/-!
The board of the store in memory is its three lists, and everything is kept as it was given.  One
counter gives all ids, so that an id is above every earlier one of its own kind whatever came
between; and as ids are unique, changing the first row with an id is changing every row with it.
-/

/-- The last row that satisfies the test is the last of those that do. -/
theorem findLast?_eq_getLast?_filter {α : Type} (test : α → Bool) (list : List α) :
    findLast? test list = (list.filter test).getLast? := by
  rw [findLast?, ← List.head?_filter, List.filter_reverse, List.head?_reverse]

/-- Where ids are unique, the first row with an id is the only one. -/
theorem updateFirst_eq_map {α : Type} {idOf : α → Int} {list : List α}
    (ordered : (list.map idOf).Pairwise (· < ·)) (id : Int) (change : α → α) :
    updateFirst (fun a => idOf a == id) change list =
      list.map fun a => if idOf a = id then change a else a := by
  induction list with
  | nil => rfl
  | cons a rest ih =>
      rw [List.map_cons, List.pairwise_cons] at ordered
      by_cases found : idOf a = id
      · have others : rest.map (fun b => if idOf b = id then change b else b) = rest := by
          conv_rhs => rw [← List.map_id rest]
          refine List.map_congr_left fun b member => if_neg ?_
          have later := ordered.1 _ (List.mem_map_of_mem member)
          omega
        simp [updateFirst, found, others]
      · simp [updateFirst, found, ih ordered.2]

/-- What the store holds. -/
def board (memory : Memory) : Board :=
  ⟨memory.sessions, memory.stories, memory.votes⟩

/-- Everything is read back as it was given. -/
def keeping : Keeping :=
  ⟨id, id⟩

/-- The store works, and its counter has given out the ids of all three kinds. -/
structure Healthy (memory : Memory) : Prop where
  failure : memory.failure = none
  sessionIds : Counted memory.lastId memory.board.sessionIds
  storyIds : Counted memory.lastId memory.board.storyIds
  voteIds : Counted memory.lastId memory.board.voteIds

theorem healthy_empty : ({} : Memory).Healthy :=
  ⟨rfl, .nil _, .nil _, .nil _⟩

section Calls

variable {memory : Memory}

theorem run_guarded {α : Type} {act : Act Memory α} (healthy : memory.Healthy) :
    guarded act memory = act memory := by
  rw [guarded, healthy.failure]

theorem run_ask {α : Type} {question : Memory → α} (healthy : memory.Healthy) :
    ask question memory = (.ok (question memory), memory) :=
  run_guarded healthy

theorem healthy_addSession (healthy : memory.Healthy) {session : Session}
    (next : session.id = memory.lastId + 1) :
    Healthy { memory with
      lastId := memory.lastId + 1, sessions := memory.sessions ++ [session] } where
  failure := healthy.failure
  sessionIds := by simpa [board, Board.sessionIds, next] using healthy.sessionIds.append
  storyIds := healthy.storyIds.skip
  voteIds := healthy.voteIds.skip

theorem healthy_addStory (healthy : memory.Healthy) {story : Story}
    (next : story.id = memory.lastId + 1) :
    Healthy { memory with
      lastId := memory.lastId + 1, stories := memory.stories ++ [story] } where
  failure := healthy.failure
  sessionIds := healthy.sessionIds.skip
  storyIds := by simpa [board, Board.storyIds, next] using healthy.storyIds.append
  voteIds := healthy.voteIds.skip

theorem healthy_addVote (healthy : memory.Healthy) {vote : Vote}
    (next : vote.id = memory.lastId + 1) :
    Healthy { memory with
      lastId := memory.lastId + 1, votes := memory.votes ++ [vote] } where
  failure := healthy.failure
  sessionIds := healthy.sessionIds.skip
  storyIds := healthy.storyIds.skip
  voteIds := by simpa [board, Board.voteIds, next] using healthy.voteIds.append

/-- An estimation finds its story by its id. -/
theorem board_estimate (healthy : memory.Healthy) (storyId : Int) (hours : Number) :
    board { memory with
      stories := updateFirst (fun story => story.id == storyId)
        (fun story => { story with estimation := some hours }) memory.stories } =
      memory.board.estimate storyId hours := by
  have ordered : (memory.stories.map (·.id)).Pairwise (· < ·) := healthy.storyIds.ordered
  exact congrArg (fun stories => Board.mk memory.sessions stories memory.votes)
    (updateFirst_eq_map ordered storyId _)

/-- A finishing mark finds its session by its id. -/
theorem board_finish (healthy : memory.Healthy) (sessionId : Int) (now : Instant) :
    board { memory with
      sessions := updateFirst (fun session => session.id == sessionId)
        (fun session => { session with finishedAt := some now }) memory.sessions } =
      memory.board.finish sessionId now := by
  have ordered : (memory.sessions.map (·.id)).Pairwise (· < ·) := healthy.sessionIds.ordered
  exact congrArg (fun sessions => Board.mk sessions memory.stories memory.votes)
    (updateFirst_eq_map ordered sessionId _)

/-- Changing rows without changing their ids leaves the store healthy. -/
theorem healthy_of_ids {changed : Memory} (healthy : memory.Healthy)
    (failure : changed.failure = memory.failure) (lastId : changed.lastId = memory.lastId)
    (sessions : changed.board.sessionIds = memory.board.sessionIds)
    (stories : changed.board.storyIds = memory.board.storyIds)
    (votes : changed.board.voteIds = memory.board.voteIds) : changed.Healthy where
  failure := failure.trans healthy.failure
  sessionIds := by rw [lastId, sessions]; exact healthy.sessionIds
  storyIds := by rw [lastId, stories]; exact healthy.storyIds
  voteIds := by rw [lastId, votes]; exact healthy.voteIds

end Calls

/-- The store in memory shows its lists, whatever the times. -/
def faithful : Faithful backend where
  board := board
  keeping := keeping
  Sound _ memory := memory.Healthy
  sound_tail healthy := healthy
  startSession healthy _ _ _ := by
    refine ⟨_, _, ?_, healthy.sessionIds.fresh, rfl, healthy_addSession healthy rfl⟩
    simp only [backend, startSession, run_guarded healthy]
    rfl
  currentSession healthy channel := by
    simp only [backend, currentSession, run_ask healthy, findLast?_eq_getLast?_filter]
    rfl
  startStory healthy _ _ _ := by
    refine ⟨_, _, ?_, healthy.storyIds.fresh, rfl, healthy_addStory healthy rfl⟩
    simp only [backend, startStory, run_guarded healthy]
    rfl
  currentStory healthy sessionId := by
    simp only [backend, currentStory, run_ask healthy, findLast?_eq_getLast?_filter]
    rfl
  castVote healthy _ _ _ _ _ parsed := by
    refine ⟨_, _, ?_, healthy.voteIds.fresh, rfl, healthy_addVote healthy rfl⟩
    simp only [backend, castVote, run_guarded healthy, parsed]
    rfl
  castVote_error healthy _ _ _ _ _ refused := by
    simp only [backend, castVote, run_guarded healthy, refused]
  votesFor healthy _ := by
    simp only [backend, votesFor, run_ask healthy]
    rfl
  setEstimation {_ memory} healthy _ storyId _ number parsed := by
    have sameBoard := board_estimate healthy storyId number
    refine ⟨0, _, ?_, trivial, sameBoard, healthy_of_ids healthy rfl rfl ?_ ?_ ?_⟩
    · simp only [backend, setEstimation, run_guarded healthy, parsed]
    · rw [sameBoard]; rfl
    · rw [sameBoard]; simp
    · rw [sameBoard]; rfl
  setEstimation_error healthy _ _ _ refused := by
    simp only [backend, setEstimation, run_guarded healthy, refused]
  finishSession {_ memory} healthy now sessionId := by
    have sameBoard := board_finish healthy sessionId now
    refine ⟨0, _, ?_, trivial, sameBoard, healthy_of_ids healthy rfl rfl ?_ ?_ ?_⟩
    · simp only [backend, finishSession, run_guarded healthy]
    · rw [sameBoard]; simp
    · rw [sameBoard]; rfl
    · rw [sameBoard]; rfl
  storiesFor healthy _ := by
    simp only [backend, storiesFor, run_ask healthy]
    rfl
  estimatedStoriesFor healthy _ := by
    simp only [backend, estimatedStoriesFor, run_ask healthy]
    rfl

end ChatRobots.Poker.Memory
