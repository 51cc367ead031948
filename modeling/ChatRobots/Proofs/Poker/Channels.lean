/-
Module: ChatRobots.Proofs.Poker.Channels
Purpose: The part of a board that belongs to one channel.
Main exports: Board.within, Change.About, Board.within_apply
-/
import Mathlib.Data.List.Nodup
import ChatRobots.Proofs.Lists
import ChatRobots.Proofs.Poker.Board

namespace ChatRobots.Poker

/-!
A channel owns its sessions, the stories of these, and the votes on these stories.  What is asked
about a channel is answered from its part of the board alone, and a change about a channel is a
change of its part and of no other one.
-/

namespace Board

def sessionsIn (channel : String) (board : Board) : List Session :=
  board.sessions.filter (·.channel == channel)

def storiesIn (channel : String) (board : Board) : List Story :=
  board.stories.filter fun story => story.sessionId ∈ (board.sessionsIn channel).map (·.id)

def votesIn (channel : String) (board : Board) : List Vote :=
  board.votes.filter fun vote => vote.storyId ∈ (board.storiesIn channel).map (·.id)

/-- What belongs to a channel. -/
def within (channel : String) (board : Board) : Board :=
  ⟨board.sessionsIn channel, board.storiesIn channel, board.votesIn channel⟩

section Queries

variable {board : Board} {channel : String} {sessionId storyId : Int}

@[simp] theorem currentSession_within :
    (board.within channel).currentSession channel = board.currentSession channel := by
  rw [currentSession, within, sessionsIn, filter_filter_of_imp]
  · rfl
  · intro session _ open_
    exact (Bool.and_eq_true_iff.1 open_).1

theorem storiesOf_within (known : sessionId ∈ (board.within channel).sessionIds) :
    (board.within channel).storiesOf sessionId = board.storiesOf sessionId := by
  apply filter_filter_of_imp _
  intro story _ own
  rw [decide_eq_true_iff, beq_iff_eq.1 own]
  exact known

theorem estimatedOf_within (known : sessionId ∈ (board.within channel).sessionIds) :
    (board.within channel).estimatedOf sessionId = board.estimatedOf sessionId := by
  apply filter_filter_of_imp _
  intro story _ own
  rw [decide_eq_true_iff, beq_iff_eq.1 (Bool.and_eq_true_iff.1 own).1]
  exact known

theorem currentStory_within (known : sessionId ∈ (board.within channel).sessionIds) :
    (board.within channel).currentStory sessionId = board.currentStory sessionId := by
  refine congrArg List.getLast? (filter_filter_of_imp _ ?_)
  intro story _ own
  rw [decide_eq_true_iff, beq_iff_eq.1 (Bool.and_eq_true_iff.1 own).1]
  exact known

theorem votesOn_within (known : storyId ∈ (board.within channel).storyIds) :
    (board.within channel).votesOn storyId = board.votesOn storyId := by
  apply filter_filter_of_imp _
  intro vote _ own
  rw [decide_eq_true_iff, beq_iff_eq.1 own]
  exact known

/-- The current session of a channel belongs to it. -/
theorem session_mem_within {session : Session}
    (current : board.currentSession channel = some session) :
    session.id ∈ (board.within channel).sessionIds := by
  rw [← currentSession_within] at current
  exact List.mem_map_of_mem (List.mem_of_mem_filter (List.mem_of_getLast? current))

/-- The current story of a session of a channel belongs to the channel. -/
theorem story_mem_within (known : sessionId ∈ (board.within channel).sessionIds) {story : Story}
    (current : board.currentStory sessionId = some story) :
    story.id ∈ (board.within channel).storyIds := by
  rw [← currentStory_within known] at current
  exact List.mem_map_of_mem (List.mem_of_mem_filter (List.mem_of_getLast? current))

/-- The status of a channel is the status of its part. -/
@[simp] theorem status_within :
    (board.within channel).status channel = board.status channel := by
  rw [status, status, currentSession_within]
  apply Option.map_congr
  intro session current
  have known := session_mem_within current
  rw [estimatedOf_within known, currentStory_within known]
  congr 1
  apply Option.map_congr
  intro story current
  rw [votesOn_within (story_mem_within known current)]

theorem session_mem_of_within (known : sessionId ∈ (board.within channel).sessionIds) :
    sessionId ∈ board.sessionIds := by
  obtain ⟨session, member, rfl⟩ := List.mem_map.1 known
  exact List.mem_map_of_mem (List.mem_of_mem_filter member)

theorem story_mem_of_within (known : storyId ∈ (board.within channel).storyIds) :
    storyId ∈ board.storyIds := by
  obtain ⟨story, member, rfl⟩ := List.mem_map.1 known
  exact List.mem_map_of_mem (List.mem_of_mem_filter member)

end Queries

end Board

namespace Change

/-- The change is one about the channel. -/
def About (channel : String) (board : Board) : Change → Prop
  | session started _ _ => started = channel
  | story sessionId _ => sessionId ∈ (board.within channel).sessionIds
  | vote storyId _ _ => storyId ∈ (board.within channel).storyIds
  | estimate storyId _ => storyId ∈ (board.within channel).storyIds
  | finish sessionId => sessionId ∈ (board.within channel).sessionIds

instance (channel : String) (board : Board) :
    (change : Change) → Decidable (change.About channel board)
  | session started _ _ => inferInstanceAs (Decidable (started = channel))
  | story sessionId _ => inferInstanceAs (Decidable (sessionId ∈ (board.within channel).sessionIds))
  | vote storyId _ _ => inferInstanceAs (Decidable (storyId ∈ (board.within channel).storyIds))
  | estimate storyId _ => inferInstanceAs (Decidable (storyId ∈ (board.within channel).storyIds))
  | finish sessionId => inferInstanceAs (Decidable (sessionId ∈ (board.within channel).sessionIds))

/-- What is about a channel refers to rows that are there. -/
theorem About.fits {channel : String} {board : Board} {change : Change}
    (about : change.About channel board) : change.Fits board := by
  cases change with
  | session | estimate | finish => trivial
  | story sessionId title => exact Board.session_mem_of_within about
  | vote storyId user value => exact Board.story_mem_of_within about

/-- An id that is fresh on a board is fresh on each part of it. -/
theorem Fresh.within {id : Int} {board : Board} {change : Change} (fresh : change.Fresh id board)
    (channel : String) : change.Fresh id (board.within channel) := by
  cases change with
  | session => exact fun earlier known => fresh earlier (Board.session_mem_of_within known)
  | story => exact fun earlier known => fresh earlier (Board.story_mem_of_within known)
  | vote =>
      intro earlier known
      obtain ⟨vote, member, rfl⟩ := List.mem_map.1 known
      exact fresh _ (List.mem_map_of_mem (List.mem_of_mem_filter member))
  | estimate | finish => trivial

end Change

namespace Board

section Apply

variable {board : Board} {channel other : String}

/-- An id names one session. -/
theorem WellFormed.session_eq (wellFormed : board.WellFormed) {session session' : Session}
    (first : session ∈ board.sessions) (second : session' ∈ board.sessions)
    (same : session.id = session'.id) : session = session' :=
  List.inj_on_of_nodup_map (wellFormed.sessionIds_lt.imp Int.ne_of_lt) first second same

/-- An id names one story. -/
theorem WellFormed.story_eq (wellFormed : board.WellFormed) {story story' : Story}
    (first : story ∈ board.stories) (second : story' ∈ board.stories)
    (same : story.id = story'.id) : story = story' :=
  List.inj_on_of_nodup_map (wellFormed.storyIds_lt.imp Int.ne_of_lt) first second same

/-- A session belongs to one channel. -/
theorem WellFormed.session_channel_eq (wellFormed : board.WellFormed) {sessionId : Int}
    (first : sessionId ∈ (board.within channel).sessionIds)
    (second : sessionId ∈ (board.within other).sessionIds) : channel = other := by
  obtain ⟨session, member, rfl⟩ := List.mem_map.1 first
  obtain ⟨session', member', same⟩ := List.mem_map.1 second
  obtain ⟨onBoard, own⟩ := List.mem_filter.1 member
  obtain ⟨onBoard', own'⟩ := List.mem_filter.1 member'
  rw [← beq_iff_eq.1 own, ← beq_iff_eq.1 own', wellFormed.session_eq onBoard' onBoard same]

/-- A story belongs to one channel. -/
theorem WellFormed.story_channel_eq (wellFormed : board.WellFormed) {storyId : Int}
    (first : storyId ∈ (board.within channel).storyIds)
    (second : storyId ∈ (board.within other).storyIds) : channel = other := by
  obtain ⟨story, member, rfl⟩ := List.mem_map.1 first
  obtain ⟨story', member', same⟩ := List.mem_map.1 second
  obtain ⟨onBoard, own⟩ := List.mem_filter.1 member
  obtain ⟨onBoard', own'⟩ := List.mem_filter.1 member'
  rw [wellFormed.story_eq onBoard' onBoard same] at own'
  exact wellFormed.session_channel_eq (of_decide_eq_true own) (of_decide_eq_true own')

/-- A change is about one channel. -/
theorem WellFormed.about_eq (wellFormed : board.WellFormed) {change : Change}
    (first : change.About channel board) (second : change.About other board) :
    channel = other := by
  cases change with
  | session started title roster => exact first.symm.trans second
  | story | finish => exact wellFormed.session_channel_eq first second
  | vote | estimate => exact wellFormed.story_channel_eq first second

theorem storiesIn_congr {board' : Board} (stories : board'.stories = board.stories)
    (same : ∀ story ∈ board.stories, story.sessionId ∈ (board'.sessionsIn channel).map (·.id) ↔
      story.sessionId ∈ (board.sessionsIn channel).map (·.id)) :
    board'.storiesIn channel = board.storiesIn channel := by
  rw [storiesIn, storiesIn, stories]
  exact List.filter_congr fun story member => decide_eq_decide.2 (same story member)

theorem votesIn_congr {board' : Board} (votes : board'.votes = board.votes)
    (same : ∀ vote ∈ board.votes, vote.storyId ∈ (board'.storiesIn channel).map (·.id) ↔
      vote.storyId ∈ (board.storiesIn channel).map (·.id)) :
    board'.votesIn channel = board.votesIn channel := by
  rw [votesIn, votesIn, votes]
  exact List.filter_congr fun vote member => decide_eq_decide.2 (same vote member)

section Rows

variable (keeping : Keeping) (now : Instant) (id : Int) (board : Board) (channel : String)

theorem sessionsIn_apply_session (started title : String) (roster : Roster) :
    (board.apply keeping now id (.session started title roster)).sessionsIn channel =
      board.sessionsIn channel ++
        if started = channel then [⟨id, started, title, roster, keeping.time now, none⟩]
        else [] := by
  by_cases own : started = channel <;> simp [sessionsIn, apply, own]

theorem storiesIn_apply_story (sessionId : Int) (title : String) :
    (board.apply keeping now id (.story sessionId title)).storiesIn channel =
      board.storiesIn channel ++
        if sessionId ∈ (board.within channel).sessionIds then
          [⟨id, sessionId, title, none, keeping.time now⟩] else [] :=
  filter_concat _ board.stories _

theorem votesIn_apply_vote (storyId : Int) (user : String) (value : Number) :
    (board.apply keeping now id (.vote storyId user value)).votesIn channel =
      board.votesIn channel ++
        if storyId ∈ (board.within channel).storyIds then
          [⟨id, storyId, user, keeping.number value, keeping.time now⟩] else [] :=
  filter_concat _ board.votes _

/-- Finishing a session moves no row to another channel. -/
theorem within_finish (sessionId : Int) (time : Instant) :
    (board.finish sessionId time).within channel =
      (board.within channel).finish sessionId time := by
  have sessions : (board.finish sessionId time).sessionsIn channel =
      ((board.within channel).finish sessionId time).sessions := by
    refine List.filter_map.trans (congrArg (List.map _) (List.filter_congr ?_))
    intro session _
    rw [Function.comp_apply]
    split <;> rfl
  have ids : ((board.finish sessionId time).sessionsIn channel).map (·.id) =
      (board.sessionsIn channel).map (·.id) := by
    rw [sessions]
    exact sessionIds_finish _ _ _
  have stories : (board.finish sessionId time).storiesIn channel = board.storiesIn channel :=
    storiesIn_congr rfl fun story _ => by rw [ids]
  have votes : (board.finish sessionId time).votesIn channel = board.votesIn channel :=
    votesIn_congr rfl fun vote _ => by rw [stories]
  rw [within, sessions, stories, votes]
  rfl

/-- Giving a story its estimation moves no row to another channel. -/
theorem within_estimate (storyId : Int) (hours : Number) :
    (board.estimate storyId hours).within channel =
      (board.within channel).estimate storyId hours := by
  have stories : (board.estimate storyId hours).storiesIn channel =
      ((board.within channel).estimate storyId hours).stories := by
    refine List.filter_map.trans (congrArg (List.map _) (List.filter_congr ?_))
    intro story _
    rw [Function.comp_apply]
    split <;> rfl
  have ids : ((board.estimate storyId hours).storiesIn channel).map (·.id) =
      (board.storiesIn channel).map (·.id) := by
    rw [stories]
    exact storyIds_estimate _ _ _
  have votes : (board.estimate storyId hours).votesIn channel = board.votesIn channel :=
    votesIn_congr rfl fun vote _ => by rw [ids]
  rw [within, stories, votes]
  rfl

/-- An estimation of a story of another board changes nothing. -/
theorem estimate_of_notMem {storyId : Int} (absent : storyId ∉ board.storyIds) (hours : Number) :
    board.estimate storyId hours = board := by
  have stories : (board.estimate storyId hours).stories = board.stories := by
    refine (List.map_congr_left fun story member => if_neg ?_).trans (List.map_id _)
    rintro rfl
    exact absent (List.mem_map_of_mem member)
  exact congrArg (fun stories => ({ board with stories := stories } : Board)) stories

theorem finish_of_notMem {sessionId : Int} (absent : sessionId ∉ board.sessionIds)
    (time : Instant) : board.finish sessionId time = board := by
  have sessions : (board.finish sessionId time).sessions = board.sessions := by
    refine (List.map_congr_left fun session member => if_neg ?_).trans (List.map_id _)
    rintro rfl
    exact absent (List.mem_map_of_mem member)
  exact congrArg (fun sessions => ({ board with sessions := sessions } : Board)) sessions

end Rows

/-- A new row is not one with an id that there was before. -/
theorem mem_ids_append_iff {α : Type} {rows : List α} {ids : α → Int} {new : α} {p : Prop}
    [Decidable p] {id : Int} (other : id ≠ ids new) :
    id ∈ (rows ++ if p then [new] else []).map ids ↔ id ∈ rows.map ids := by
  rw [List.map_append, List.mem_append]
  apply or_iff_left
  split <;> simp [other]

/-- A new session belongs to its own channel, and no row that there was belongs to it. -/
theorem within_apply_session (wellFormed : board.WellFormed) (keeping : Keeping) (now : Instant)
    {id : Int} {started title : String} {roster : Roster}
    (fresh : (Change.session started title roster).Fresh id board) (channel : String) :
    (board.apply keeping now id (.session started title roster)).within channel =
      if started = channel then
        (board.within channel).apply keeping now id (.session started title roster)
      else board.within channel := by
  have sessions := sessionsIn_apply_session keeping now id board channel started title roster
  have stories :
      (board.apply keeping now id (.session started title roster)).storiesIn channel =
        board.storiesIn channel := by
    refine storiesIn_congr rfl ?_
    intro story member
    rw [sessions]
    exact mem_ids_append_iff (Int.ne_of_lt (fresh _ (wellFormed.session_mem story member)))
  have votes : (board.apply keeping now id (.session started title roster)).votesIn channel =
      board.votesIn channel := votesIn_congr rfl fun vote _ => by rw [stories]
  rw [within, sessions, stories, votes]
  by_cases own : started = channel
  · rw [if_pos own, if_pos own]
    rfl
  · rw [if_neg own, if_neg own, List.append_nil]
    rfl

theorem within_apply_story (wellFormed : board.WellFormed) (keeping : Keeping) (now : Instant)
    {id sessionId : Int} {title : String} (fresh : (Change.story sessionId title).Fresh id board)
    (channel : String) :
    (board.apply keeping now id (.story sessionId title)).within channel =
      if sessionId ∈ (board.within channel).sessionIds then
        (board.within channel).apply keeping now id (.story sessionId title)
      else board.within channel := by
  have stories := storiesIn_apply_story keeping now id board channel sessionId title
  have votes : (board.apply keeping now id (.story sessionId title)).votesIn channel =
      board.votesIn channel := by
    refine votesIn_congr rfl ?_
    intro vote member
    rw [stories]
    exact mem_ids_append_iff (Int.ne_of_lt (fresh _ (wellFormed.story_mem vote member)))
  rw [within, stories, votes]
  by_cases own : sessionId ∈ (board.within channel).sessionIds
  · rw [if_pos own, if_pos own]
    rfl
  · rw [if_neg own, if_neg own, List.append_nil]
    rfl

theorem within_apply_vote (keeping : Keeping) (now : Instant) (id storyId : Int)
    (user : String) (value : Number) (channel : String) :
    (board.apply keeping now id (.vote storyId user value)).within channel =
      if storyId ∈ (board.within channel).storyIds then
        (board.within channel).apply keeping now id (.vote storyId user value)
      else board.within channel := by
  rw [within, votesIn_apply_vote]
  by_cases own : storyId ∈ (board.within channel).storyIds
  · rw [if_pos own, if_pos own]
    rfl
  · rw [if_neg own, if_neg own, List.append_nil]
    rfl

/-- The part of a channel changes when the change is about the channel, and only then. -/
theorem within_apply (wellFormed : board.WellFormed) (keeping : Keeping) (now : Instant) {id : Int}
    {change : Change} (fresh : change.Fresh id board) (channel : String) :
    (board.apply keeping now id change).within channel =
      if change.About channel board then (board.within channel).apply keeping now id change
      else board.within channel := by
  cases change with
  | session started title roster =>
      exact within_apply_session wellFormed keeping now fresh channel
  | story sessionId title => exact within_apply_story wellFormed keeping now fresh channel
  | vote storyId user value => exact within_apply_vote keeping now id storyId user value channel
  | estimate storyId hours =>
      rw [Board.apply, within_estimate]
      by_cases about : (Change.estimate storyId hours).About channel board
      · rw [if_pos about]
        rfl
      · rw [if_neg about]
        exact estimate_of_notMem _ about _
  | finish sessionId =>
      rw [Board.apply, within_finish]
      by_cases about : (Change.finish sessionId).About channel board
      · rw [if_pos about]
        rfl
      · rw [if_neg about]
        exact finish_of_notMem _ about _

end Apply

end Board

end ChatRobots.Poker
