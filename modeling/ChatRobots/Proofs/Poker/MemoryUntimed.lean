/-
Module: ChatRobots.Proofs.Poker.MemoryUntimed
Purpose: The poker store in memory does at any time what it does at a fixed one, but for the times.
Main exports: Memory.untimed, Memory.map_updateFirst, Memory.timeless
-/
import ChatRobots.Proofs.Poker.MemoryBoard
import ChatRobots.Proofs.Poker.Untimed

namespace ChatRobots.Poker.Memory

/-- The store with the times of its rows left out. -/
def untimed (memory : Memory) : Memory :=
  { memory with
    sessions := memory.sessions.map Session.untimed
    stories := memory.stories.map Story.untimed
    votes := memory.votes.map Vote.untimed }

/-- To change the first element and then look at all is to look at all and then change the first. -/
theorem map_updateFirst {α : Type} {look : α → α} {test : α → Bool} {change change' : α → α}
    (same_test : ∀ a, test (look a) = test a)
    (same_change : ∀ a, look (change a) = change' (look a)) (list : List α) :
    (updateFirst test change list).map look = updateFirst test change' (list.map look) := by
  induction list with
  | nil => rfl
  | cons a rest ih =>
      rw [List.map_cons, updateFirst, updateFirst, same_test]
      split
      · rw [List.map_cons, same_change]
      · rw [List.map_cons, ih]

section Calls

variable {memory : Memory}

/-- The times do not matter for whether the store is in order. -/
theorem healthy_untimed (healthy : memory.Healthy) : memory.untimed.Healthy := by
  refine healthy_of_ids healthy rfl rfl ?_ ?_ ?_
  · simp [untimed, board, Board.sessionIds, Session.untimed]
  · simp [untimed, board, Board.storyIds, Story.untimed]
  · simp [untimed, board, Board.voteIds, Vote.untimed]

/-- A call that the store was not told to fail. -/
theorem untimes_guarded {α : Type} {use : α → α} {now epoch : Act Memory α}
    (healthy : memory.Healthy) (untimes : Untimes untimed use now epoch memory) :
    Untimes untimed use (guarded now) (guarded epoch) memory := by
  unfold Untimes at untimes ⊢
  rw [run_guarded healthy, run_guarded (healthy_untimed healthy)]
  exact untimes

end Calls

/-- The store in memory works the same at any time. -/
def timeless : Timeless faithful where
  untimed := untimed
  board_untimed _ := rfl
  sound_untimed := healthy_untimed
  startSession healthy _ _ _ := by
    refine untimes_guarded healthy ?_
    simp [Untimes, untimed, Session.untimed, Except.map]
  startStory healthy _ _ := by
    refine untimes_guarded healthy ?_
    simp [Untimes, untimed, Story.untimed, Except.map]
  castVote healthy _ _ value := by
    refine untimes_guarded healthy ?_
    unfold Untimes
    cases parseNumber "vote" value with
    | error error => rfl
    | ok number => simp [untimed, Vote.untimed, Except.map]
  setEstimation {_ memory} healthy storyId hours := by
    refine untimes_guarded healthy ?_
    unfold Untimes
    cases parseNumber "estimation" hours with
    | error error => rfl
    | ok number =>
        have estimated : (updateFirst (fun story : Story => story.id == storyId)
            (fun story => { story with estimation := some number }) memory.stories).map
              Story.untimed =
            updateFirst (fun story => story.id == storyId)
              (fun story => { story with estimation := some number })
              (memory.stories.map Story.untimed) := by
          apply map_updateFirst <;> exact fun _ => rfl
        simp [untimed, estimated, Except.map]
  finishSession {now _ memory} healthy sessionId := by
    refine untimes_guarded healthy ?_
    have finished : (updateFirst (fun session : Session => session.id == sessionId)
        (fun session => { session with finishedAt := some now }) memory.sessions).map
          Session.untimed =
        updateFirst (fun session => session.id == sessionId)
          (fun session => { session with finishedAt := some .epoch })
          (memory.sessions.map Session.untimed) := by
      apply map_updateFirst <;> exact fun _ => rfl
    simp [Untimes, untimed, finished, Except.map]
  sound_startStory healthy _ _ _ := by
    simp only [backend, startStory, run_guarded healthy]
    exact healthy_addStory healthy rfl
  sound_castVote healthy _ _ _ value := by
    simp only [backend, castVote, run_guarded healthy]
    cases parseNumber "vote" value with
    | error error => exact healthy
    | ok number => exact healthy_addVote healthy rfl

end ChatRobots.Poker.Memory
