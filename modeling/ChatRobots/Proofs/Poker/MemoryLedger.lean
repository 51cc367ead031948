/-
Module: ChatRobots.Proofs.Poker.MemoryLedger
Purpose: What each call does to the rows of the store in memory.
Main exports: Board.ledger, Memory.bookkeeping
-/
import ChatRobots.Proofs.Poker.Ledger
import ChatRobots.Proofs.Poker.MemoryBoard

namespace ChatRobots.Poker

/-!
The store in memory keeps everything as it was given, so its ledger is its board, line by line.
Unlike the board it is written to by stories and votes that refer to nothing as well: the store in
memory does not look whether their session or their story is there.
-/

def Session.line (session : Session) : SessionLine :=
  ⟨session.id, session.channel, session.title, .names session.roster, .instant session.createdAt,
    session.finishedAt.map .instant⟩

def Story.line (story : Story) : StoryLine :=
  ⟨story.id, story.sessionId, story.title, story.estimation.map .number, .instant story.createdAt⟩

def Vote.line (vote : Vote) : VoteLine :=
  ⟨vote.id, vote.storyId, vote.user, .number vote.value, .instant vote.createdAt⟩

/-- The rows of a board. -/
def Board.ledger (board : Board) : Ledger where
  sessions := board.sessions.map Session.line
  stories := board.stories.map Story.line
  votes := board.votes.map Vote.line

namespace Memory

/-- Everything is written as it was given. -/
def hand : Hand :=
  ⟨.instant, .names, .number⟩

/-- A change of the board is the same change of its rows. -/
theorem ledger_apply (board : Board) (now : Instant) (id : Int) (change : Change) :
    (board.apply keeping now id change).ledger = board.ledger.write hand now id change := by
  cases change with
  | session | story | vote =>
      simp [Board.apply, Board.ledger, Ledger.write, Session.line, Story.line, Vote.line, hand,
        keeping]
  | estimate storyId hours =>
      simp only [Board.apply, Board.estimate, Board.ledger, Ledger.write]
      congr 1
      apply map_map_at_key <;> exact fun _ => rfl
  | finish sessionId =>
      simp only [Board.apply, Board.finish, Board.ledger, Ledger.write]
      congr 1
      apply map_map_at_key <;> exact fun _ => rfl

/-- Ids given out in order are all different. -/
theorem numbered {memory : Memory} (healthy : memory.Healthy) :
    memory.board.ledger.Numbered where
  sessions := by
    rw [Board.ledger, List.map_map]
    exact healthy.sessionIds.ordered.imp Int.ne_of_lt
  stories := by
    rw [Board.ledger, List.map_map]
    exact healthy.storyIds.ordered.imp Int.ne_of_lt
  votes := by
    rw [Board.ledger, List.map_map]
    exact healthy.voteIds.ordered.imp Int.ne_of_lt

/-- What is written to the board is written to the ledger. -/
theorem written_of_writes {now : Instant} {change : Change} {id : Int} {before after : Memory}
    (writes : Writes board keeping (fun _ memory => memory.Healthy) now [] change id before after) :
    Written (fun memory => memory.board.ledger) hand Healthy now change id before after where
  new := by
    have fresh := writes.fresh
    cases change with
    | session =>
        intro line member
        obtain ⟨session, old, rfl⟩ := List.mem_map.1 member
        exact Int.ne_of_lt (fresh _ (List.mem_map_of_mem old))
    | story =>
        intro line member
        obtain ⟨story, old, rfl⟩ := List.mem_map.1 member
        exact Int.ne_of_lt (fresh _ (List.mem_map_of_mem old))
    | vote =>
        intro line member
        obtain ⟨vote, old, rfl⟩ := List.mem_map.1 member
        exact Int.ne_of_lt (fresh _ (List.mem_map_of_mem old))
    | estimate => trivial
    | finish => trivial
  ledger_eq := by rw [writes.board_eq, ledger_apply]
  sound := writes.sound

section Calls

variable {memory : Memory}

/-- A store that was told to fail changes nothing. -/
theorem attempt_guarded {α : Type} {act : Act Memory α} {done : α → Memory → Prop}
    (attempt : Attempt memory done (act memory)) : Attempt memory done (guarded act memory) := by
  unfold guarded
  split
  · rfl
  · exact attempt

/-- A question changes nothing, whether or not it is answered. -/
theorem ask_snd {α : Type} (question : Memory → α) (memory : Memory) :
    (ask question memory).2 = memory := by
  unfold ask guarded
  split <;> rfl

/-- A question that is answered is answered from the state. -/
theorem ask_fst {α : Type} {question : Memory → α} {answer : α}
    (answered : (ask question memory).1 = .ok answer) : question memory = answer := by
  unfold ask guarded at answered
  split at answered
  · cases answered
  · exact Except.ok.inj answered

/-- The last element that satisfies a test is one, and satisfies it. -/
theorem mem_of_findLast? {α : Type} {test : α → Bool} {list : List α} {a : α}
    (found : findLast? test list = some a) : a ∈ list ∧ test a = true := by
  rw [findLast?_eq_getLast?_filter] at found
  exact List.mem_filter.1 (List.mem_of_getLast? found)

end Calls

/-- The calls of the store in memory, row by row. -/
def bookkeeping : Bookkeeping backend where
  hand := hand
  ledger memory := memory.board.ledger
  Sound := Healthy
  numbered := numbered
  startSession healthy now channel title csv := by
    have due : faithful.Sound [now] _ := healthy
    obtain ⟨id, after, started, writes⟩ := faithful.startSession due channel title csv
    rw [started]
    exact ⟨rfl, id, written_of_writes writes⟩
  startStory {memory} healthy now sessionId title := by
    simp only [backend, startStory, run_guarded healthy]
    exact ⟨rfl, _, written_of_writes
      ⟨healthy.storyIds.fresh, rfl, healthy_addStory healthy rfl⟩⟩
  castVote healthy now storyId user value := by
    simp only [backend, castVote, run_guarded healthy]
    cases parsed : parseNumber "vote" value with
    | error error => rfl
    | ok number =>
        exact ⟨number, _, rfl, written_of_writes
          ⟨healthy.voteIds.fresh, rfl, healthy_addVote healthy rfl⟩⟩
  setEstimation healthy now storyId hours := by
    have settled : faithful.Sound [] _ := healthy
    cases parsed : parseNumber "estimation" hours with
    | error error =>
        rw [faithful.setEstimation_error settled storyId parsed]
        rfl
    | ok number =>
        obtain ⟨id, after, estimated, writes⟩ :=
          faithful.setEstimation settled now storyId parsed
        rw [estimated]
        exact ⟨number, id, rfl, written_of_writes writes⟩
  finishSession healthy now sessionId := by
    have settled : faithful.Sound [] _ := healthy
    obtain ⟨id, after, finished, writes⟩ := faithful.finishSession settled now sessionId
    rw [finished]
    exact ⟨id, written_of_writes writes⟩
  currentSession _ memory := ask_snd _ memory
  currentStory _ memory := ask_snd _ memory
  votesFor _ memory := ask_snd _ memory
  storiesFor _ memory := ask_snd _ memory
  estimatedStoriesFor _ memory := ask_snd _ memory
  unfinished current := by
    obtain ⟨member, passes⟩ := mem_of_findLast? (ask_fst current)
    obtain ⟨own, unfinished⟩ := Bool.and_eq_true_iff.1 passes
    refine ⟨_, List.mem_map_of_mem member, rfl, beq_iff_eq.1 own, ?_⟩
    simpa [Session.line] using unfinished
  pending current := by
    obtain ⟨member, passes⟩ := mem_of_findLast? (ask_fst current)
    obtain ⟨own, waits⟩ := Bool.and_eq_true_iff.1 passes
    refine ⟨_, List.mem_map_of_mem member, rfl, beq_iff_eq.1 own, ?_⟩
    simpa [Story.line] using waits

end Memory

end ChatRobots.Poker
