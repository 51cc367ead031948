/-
Module: ChatRobots.Proofs.Poker.Board
Purpose: What a poker store holds, whichever kind of store it is, and how it changes.
Main exports: Board, Board.WellFormed, Change, Change.Fits, Change.Fresh, Board.apply
-/
import Mathlib.Data.List.Basic
import ChatRobots.Poker.Table

namespace ChatRobots.Poker

/-!
A board is what can be read out of a store: sessions, stories and votes, each in the order of
insertion.  Every question a store answers is a question about its board, and every call that
writes is one of five changes of it.  What differs from store to store is which ids are given out
and how much of a time or a number is kept; both are parameters here.
-/

/-- The content of a store, in the order of insertion. -/
structure Board where
  sessions : List Session := []
  stories : List Story := []
  votes : List Vote := []
deriving DecidableEq

/-- What a store reads back of a time and of a number that were written to it. -/
structure Keeping where
  time : Instant → Instant
  number : Number → Number

/-- Where the roster stands with these votes. -/
def RosterCheck.ofVotes (roster : Roster) (votes : List Vote) : RosterCheck :=
  if roster.isEmpty then .untracked
  else if (roster.outstanding (votes.map (·.user))).isEmpty then .complete votes
  else .waiting (roster.outstanding (votes.map (·.user)))

namespace Board

/-- The newest session of the channel that is not finished. -/
def currentSession (channel : String) (board : Board) : Option Session :=
  (board.sessions.filter fun session =>
    session.channel == channel && session.finishedAt.isNone).getLast?

def storiesOf (sessionId : Int) (board : Board) : List Story :=
  board.stories.filter (·.sessionId == sessionId)

def estimatedOf (sessionId : Int) (board : Board) : List Story :=
  board.stories.filter fun story => story.sessionId == sessionId && story.estimation.isSome

/-- The newest story of the session without an estimation. -/
def currentStory (sessionId : Int) (board : Board) : Option Story :=
  (board.stories.filter fun story =>
    story.sessionId == sessionId && story.estimation.isNone).getLast?

def votesOn (storyId : Int) (board : Board) : List Vote :=
  board.votes.filter (·.storyId == storyId)

def status (channel : String) (board : Board) : Option SessionStatus :=
  (board.currentSession channel).map fun session =>
    ⟨session, (board.estimatedOf session.id).length,
      (board.currentStory session.id).map fun story => ⟨story, board.votesOn story.id⟩⟩

def snapshot (channel : String) (board : Board) : Option Snapshot :=
  (board.currentSession channel).map fun session => ⟨session, board.storiesOf session.id⟩

def sessionIds (board : Board) : List Int :=
  board.sessions.map (·.id)

def storyIds (board : Board) : List Int :=
  board.stories.map (·.id)

def voteIds (board : Board) : List Int :=
  board.votes.map (·.id)

section Waiting

variable {board : Board} {sessionId : Int} {story : Story}

theorem estimatedOf_eq_filter (sessionId : Int) :
    board.estimatedOf sessionId =
      (board.storiesOf sessionId).filter (·.estimation.isSome) := by
  simp only [estimatedOf, storiesOf, List.filter_filter, Bool.and_comm]

theorem currentStory_eq_getLast? (sessionId : Int) :
    board.currentStory sessionId =
      ((board.storiesOf sessionId).filter (·.estimation.isNone)).getLast? := by
  simp only [currentStory, storiesOf, List.filter_filter, Bool.and_comm]

theorem isSome_estimation_of_mem (member : story ∈ board.estimatedOf sessionId) :
    story.estimation.isSome = true :=
  (Bool.and_eq_true_iff.1 (List.mem_filter.1 member).2).2

theorem isNone_estimation_of_currentStory (current : board.currentStory sessionId = some story) :
    story.estimation.isNone = true :=
  (Bool.and_eq_true_iff.1 (List.mem_filter.1 (List.mem_of_getLast? current)).2).2

end Waiting

/-- Ids grow in the order of insertion, and every reference leads somewhere. -/
structure WellFormed (board : Board) : Prop where
  sessionIds_lt : board.sessionIds.Pairwise (· < ·)
  storyIds_lt : board.storyIds.Pairwise (· < ·)
  voteIds_lt : board.voteIds.Pairwise (· < ·)
  session_mem : ∀ story ∈ board.stories, story.sessionId ∈ board.sessionIds
  story_mem : ∀ vote ∈ board.votes, vote.storyId ∈ board.storyIds

theorem wellFormed_empty : ({} : Board).WellFormed :=
  ⟨.nil, .nil, .nil, fun _ member => absurd member List.not_mem_nil,
    fun _ member => absurd member List.not_mem_nil⟩

end Board

/-- Ids given out in order by a counter that stands at the last one or past it. -/
structure Counted (last : Int) (ids : List Int) : Prop where
  ordered : ids.Pairwise (· < ·)
  le : ∀ id ∈ ids, id ≤ last

namespace Counted

variable {last : Int} {ids : List Int}

theorem nil (last : Int) : Counted last [] :=
  ⟨.nil, fun _ member => absurd member List.not_mem_nil⟩

/-- The next id is above all earlier ones. -/
theorem fresh (counted : Counted last ids) : ∀ earlier ∈ ids, earlier < last + 1 :=
  fun earlier member => Int.lt_add_one_of_le (counted.le earlier member)

/-- The counter gives out its next id. -/
theorem append (counted : Counted last ids) : Counted (last + 1) (ids ++ [last + 1]) where
  ordered := List.pairwise_append.2 ⟨counted.ordered, List.pairwise_singleton _ _,
    fun earlier member _ next => List.mem_singleton.1 next ▸ counted.fresh earlier member⟩
  le := by
    intro id member
    rcases List.mem_append.1 member with old | next
    · exact Int.le_of_lt (counted.fresh id old)
    · exact Int.le_of_eq (List.mem_singleton.1 next)

/-- The counter moves on without giving the id to this list. -/
theorem skip (counted : Counted last ids) : Counted (last + 1) ids :=
  ⟨counted.ordered, fun id member => Int.le_of_lt (counted.fresh id member)⟩

end Counted

/-- One row written: which, and with what in it. -/
inductive Change where
  | session (channel title : String) (roster : Roster)
  | story (sessionId : Int) (title : String)
  | vote (storyId : Int) (user : String) (value : Number)
  | estimate (storyId : Int) (hours : Number)
  | finish (sessionId : Int)
deriving DecidableEq

namespace Change

/-- The session or the story that an inserted row refers to is on the board. -/
def Fits (board : Board) : Change → Prop
  | session .. => True
  | story sessionId _ => sessionId ∈ board.sessionIds
  | vote storyId _ _ => storyId ∈ board.storyIds
  | estimate .. => True
  | finish _ => True

/-- The id for the row that the change inserts is above all earlier ones of its kind. -/
def Fresh (id : Int) (board : Board) : Change → Prop
  | session .. => ∀ earlier ∈ board.sessionIds, earlier < id
  | story .. => ∀ earlier ∈ board.storyIds, earlier < id
  | vote .. => ∀ earlier ∈ board.voteIds, earlier < id
  | estimate .. => True
  | finish _ => True

end Change

namespace Board

/-- Give a story its estimation. -/
def estimate (storyId : Int) (hours : Number) (board : Board) : Board :=
  { board with stories := board.stories.map fun story =>
      if story.id = storyId then { story with estimation := some hours } else story }

/-- Mark a session as finished. -/
def finish (sessionId : Int) (time : Instant) (board : Board) : Board :=
  { board with sessions := board.sessions.map fun session =>
      if session.id = sessionId then { session with finishedAt := some time } else session }

/-- The board after a change made at this time, the inserted row having this id. -/
def apply (keeping : Keeping) (now : Instant) (id : Int) (board : Board) : Change → Board
  | .session channel title roster =>
      { board with sessions := board.sessions ++
          [⟨id, channel, title, roster, keeping.time now, none⟩] }
  | .story sessionId title =>
      { board with stories := board.stories ++ [⟨id, sessionId, title, none, keeping.time now⟩] }
  | .vote storyId user value =>
      { board with votes := board.votes ++
          [⟨id, storyId, user, keeping.number value, keeping.time now⟩] }
  | .estimate storyId hours => board.estimate storyId (keeping.number hours)
  | .finish sessionId => board.finish sessionId (keeping.time now)

section Update

variable (board : Board) (sessionId storyId : Int) (hours : Number) (time : Instant)

@[simp] theorem sessionIds_finish :
    (board.finish sessionId time).sessionIds = board.sessionIds := by
  simp only [sessionIds, finish, List.map_map]
  apply List.map_congr_left
  intro session _
  simp only [Function.comp_apply]
  split <;> rfl

@[simp] theorem storyIds_estimate : (board.estimate storyId hours).storyIds = board.storyIds := by
  simp only [storyIds, estimate, List.map_map]
  apply List.map_congr_left
  intro story _
  simp only [Function.comp_apply]
  split <;> rfl

/-- An estimation moves no story to another session. -/
theorem sessionId_mem_of_mem_estimate {story : Story}
    (member : story ∈ (board.estimate storyId hours).stories) :
    ∃ before ∈ board.stories, before.sessionId = story.sessionId ∧ before.id = story.id := by
  obtain ⟨before, inBoard, rfl⟩ := List.mem_map.1 member
  refine ⟨before, inBoard, ?_⟩
  split <;> exact ⟨rfl, rfl⟩

end Update

section Insert

variable (keeping : Keeping) (now : Instant) (id : Int) (board : Board)

@[simp] theorem sessionIds_apply_session (channel title : String) (roster : Roster) :
    (board.apply keeping now id (.session channel title roster)).sessionIds =
      board.sessionIds ++ [id] := by
  simp [apply, sessionIds]

@[simp] theorem storyIds_apply_story (sessionId : Int) (title : String) :
    (board.apply keeping now id (.story sessionId title)).storyIds = board.storyIds ++ [id] := by
  simp [apply, storyIds]

@[simp] theorem voteIds_apply_vote (storyId : Int) (user : String) (value : Number) :
    (board.apply keeping now id (.vote storyId user value)).voteIds = board.voteIds ++ [id] := by
  simp [apply, voteIds]

/-- A new story comes last among the stories of its session. -/
theorem storiesOf_apply_story (sessionId : Int) (title : String) :
    (board.apply keeping now id (.story sessionId title)).storiesOf sessionId =
      board.storiesOf sessionId ++ [⟨id, sessionId, title, none, keeping.time now⟩] := by
  simp [apply, storiesOf]

theorem storiesOf_apply_story_of_ne {sessionId other : Int} (differs : sessionId ≠ other)
    (title : String) : (board.apply keeping now id (.story sessionId title)).storiesOf other =
      board.storiesOf other := by
  simp [apply, storiesOf, differs]

/-- A new vote comes last among the votes on its story. -/
theorem votesOn_apply_vote (storyId : Int) (user : String) (value : Number) :
    (board.apply keeping now id (.vote storyId user value)).votesOn storyId =
      board.votesOn storyId ++
        [⟨id, storyId, user, keeping.number value, keeping.time now⟩] := by
  simp [apply, votesOn]

end Insert

/-- Ids stay in order when a larger one is appended. -/
theorem pairwise_append_of_fresh {ids : List Int} {id : Int} (ordered : ids.Pairwise (· < ·))
    (fresh : ∀ earlier ∈ ids, earlier < id) : (ids ++ [id]).Pairwise (· < ·) :=
  List.pairwise_append.2 ⟨ordered, List.pairwise_singleton _ _, fun earlier member _ last => by
    rw [List.mem_singleton.1 last]
    exact fresh earlier member⟩

/-- A change with a fresh id and valid references keeps a board well formed. -/
theorem WellFormed.apply {board : Board} (wellFormed : board.WellFormed) (keeping : Keeping)
    (now : Instant) {id : Int} {change : Change} (fits : change.Fits board)
    (fresh : change.Fresh id board) : (board.apply keeping now id change).WellFormed := by
  obtain ⟨sessionsOrdered, storiesOrdered, votesOrdered, sessionMem, storyMem⟩ := wellFormed
  cases change with
  | session channel title roster =>
      refine ⟨?_, storiesOrdered, votesOrdered, ?_, storyMem⟩
      · simpa using pairwise_append_of_fresh sessionsOrdered fresh
      · intro story member
        have old := sessionMem story member
        rw [sessionIds_apply_session]
        exact List.mem_append_left _ old
  | story sessionId title =>
      refine ⟨sessionsOrdered, ?_, votesOrdered, ?_, ?_⟩
      · simpa using pairwise_append_of_fresh storiesOrdered fresh
      · intro story member
        rcases List.mem_append.1 member with old | new
        · exact sessionMem story old
        · rw [List.mem_singleton.1 new]
          exact fits
      · intro vote member
        have old := storyMem vote member
        rw [storyIds_apply_story]
        exact List.mem_append_left _ old
  | vote storyId user value =>
      refine ⟨sessionsOrdered, storiesOrdered, ?_, sessionMem, ?_⟩
      · simpa using pairwise_append_of_fresh votesOrdered fresh
      · intro vote member
        rcases List.mem_append.1 member with old | new
        · exact storyMem vote old
        · rw [List.mem_singleton.1 new]
          exact fits
  | estimate storyId hours =>
      refine ⟨sessionsOrdered, ?_, votesOrdered, ?_, ?_⟩
      · simpa [Board.apply] using storiesOrdered
      · intro story member
        obtain ⟨before, inBoard, same, _⟩ := sessionId_mem_of_mem_estimate _ _ _ member
        rw [← same]
        exact sessionMem before inBoard
      · intro vote member
        simpa [Board.apply] using storyMem vote member
  | finish sessionId =>
      refine ⟨?_, storiesOrdered, votesOrdered, ?_, storyMem⟩
      · simpa [Board.apply] using sessionsOrdered
      · intro story member
        simpa [Board.apply] using sessionMem story member

end Board

end ChatRobots.Poker
