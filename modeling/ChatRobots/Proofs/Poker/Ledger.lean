/-
Module: ChatRobots.Proofs.Poker.Ledger
Purpose: The rows of a poker store as they are kept, and what each call writes to them.
Main exports: Entry, Entry.roster, SessionLine.Tells, Ledger, Hand, Ledger.write, Ledger.OneRow,
  Attempt, Attempt.state, Bookkeeping
-/
import ChatRobots.Database.Basic
import ChatRobots.Poker.Backend
import ChatRobots.Proofs.Lists
import ChatRobots.Proofs.Poker.Board

namespace ChatRobots.Poker

/-!
A board is what can be read out of a store.  A ledger is what stands in it, readable or not: every
row with all its fields, in the order of insertion.  A call either fails and leaves the store
exactly as it was, or it makes one entry; a question makes none.  Nothing is assumed of the times
at which entries are made, so what is shown here holds of rows that nobody can read back as well.
-/

/-- What is kept of a time, of a roster or of a number. -/
inductive Entry where
  | instant (time : Instant)
  | names (roster : Roster)
  | number (value : Number)
  | text (value : String)
deriving DecidableEq

/-- The roster that an entry stands for. -/
def Entry.roster : Entry → Roster
  | names roster => roster
  | text csv => .ofCsv csv
  | instant _ => ⟨[]⟩
  | number _ => ⟨[]⟩

/-- The row of a session. -/
structure SessionLine where
  id : Int
  channel : String
  title : String
  roster : Entry
  createdAt : Entry
  finishedAt : Option Entry
deriving DecidableEq

/-- The row is one of this session: it has everything of it but the times. -/
structure SessionLine.Tells (line : SessionLine) (session : Session) : Prop where
  id_eq : session.id = line.id
  channel_eq : session.channel = line.channel
  title_eq : session.title = line.title
  roster_eq : session.roster = line.roster.roster

/-- The row of a story. -/
structure StoryLine where
  id : Int
  sessionId : Int
  title : String
  estimation : Option Entry
  createdAt : Entry
deriving DecidableEq

/-- The row of a vote. -/
structure VoteLine where
  id : Int
  storyId : Int
  user : String
  value : Entry
  createdAt : Entry
deriving DecidableEq

/-- All rows, in the order of insertion; a database has the rows of the other robots as well. -/
structure Ledger where
  sessions : List SessionLine := []
  stories : List StoryLine := []
  votes : List VoteLine := []
  settings : List SettingRow := []
  vacations : List VacationRow := []

/-- How a store writes times, rosters and numbers. -/
structure Hand where
  time : Instant → Entry
  roster : Roster → Entry
  number : Number → Entry

/-- The id is given to no other row of the kind that the change inserts. -/
def Change.NewIn (id : Int) (ledger : Ledger) : Change → Prop
  | session .. => ∀ line ∈ ledger.sessions, line.id ≠ id
  | story .. => ∀ line ∈ ledger.stories, line.id ≠ id
  | vote .. => ∀ line ∈ ledger.votes, line.id ≠ id
  | estimate .. => True
  | finish _ => True

namespace Ledger

/-- No two rows of one kind have one id. -/
structure Numbered (ledger : Ledger) : Prop where
  sessions : (ledger.sessions.map (·.id)).Nodup
  stories : (ledger.stories.map (·.id)).Nodup
  votes : (ledger.votes.map (·.id)).Nodup

variable (hand : Hand) (now : Instant)

/-- The ledger after a change made at this time, the inserted row having this id. -/
def write (id : Int) (ledger : Ledger) : Change → Ledger
  | .session channel title roster =>
      { ledger with sessions := ledger.sessions ++
          [⟨id, channel, title, hand.roster roster, hand.time now, none⟩] }
  | .story sessionId title =>
      { ledger with stories := ledger.stories ++ [⟨id, sessionId, title, none, hand.time now⟩] }
  | .vote storyId user value =>
      { ledger with votes := ledger.votes ++
          [⟨id, storyId, user, hand.number value, hand.time now⟩] }
  | .estimate storyId hours =>
      { ledger with stories := ledger.stories.map fun line =>
          if line.id = storyId then { line with estimation := some (hand.number hours) }
          else line }
  | .finish sessionId =>
      { ledger with sessions := ledger.sessions.map fun line =>
          if line.id = sessionId then { line with finishedAt := some (hand.time now) } else line }

/-- The change is one row: a new one at the end, with an id of its own, or a mark on one that had
none.  Everything else is as it was. -/
inductive OneRow (before : Ledger) : Change → Ledger → Prop where
  | session {id : Int} {channel title : String} {roster : Roster}
      (new : ∀ line ∈ before.sessions, line.id ≠ id) :
      OneRow before (.session channel title roster)
        { before with sessions := before.sessions ++
            [⟨id, channel, title, hand.roster roster, hand.time now, none⟩] }
  | story {id sessionId : Int} {title : String} (new : ∀ line ∈ before.stories, line.id ≠ id) :
      OneRow before (.story sessionId title)
        { before with stories := before.stories ++
            [⟨id, sessionId, title, none, hand.time now⟩] }
  | vote {id storyId : Int} {user : String} {value : Number}
      (new : ∀ line ∈ before.votes, line.id ≠ id) :
      OneRow before (.vote storyId user value)
        { before with votes := before.votes ++
            [⟨id, storyId, user, hand.number value, hand.time now⟩] }
  | estimate {earlier later : List StoryLine} {line : StoryLine} {hours : Number}
      (row : before.stories = earlier ++ line :: later) (pending : line.estimation = none) :
      OneRow before (.estimate line.id hours)
        { before with stories := earlier ++
            { line with estimation := some (hand.number hours) } :: later }
  | finish {earlier later : List SessionLine} {line : SessionLine}
      (row : before.sessions = earlier ++ line :: later) (unfinished : line.finishedAt = none) :
      OneRow before (.finish line.id)
        { before with sessions := earlier ++
            { line with finishedAt := some (hand.time now) } :: later }

variable {hand now} {id : Int} {ledger before after : Ledger} {change : Change}

/-- To write one row is to change something. -/
theorem OneRow.ne (one : OneRow hand now before change after) : after ≠ before := by
  intro same
  cases one with
  | session new =>
      have length := congrArg (·.sessions.length) same
      simp at length
  | story new =>
      have length := congrArg (·.stories.length) same
      simp at length
  | vote new =>
      have length := congrArg (·.votes.length) same
      simp at length
  | estimate row pending =>
      have stories := congrArg (·.stories) same
      simp only [row, List.append_cancel_left_eq, List.cons.injEq, and_true] at stories
      rw [← stories] at pending
      cases pending
  | finish row unfinished =>
      have sessions := congrArg (·.sessions) same
      simp only [row, List.append_cancel_left_eq, List.cons.injEq, and_true] at sessions
      rw [← sessions] at unfinished
      cases unfinished

/-- A row that is inserted is one row. -/
theorem oneRow_session {channel title : String} {roster : Roster}
    (new : (Change.session channel title roster).NewIn id ledger) :
    OneRow hand now ledger (.session channel title roster)
      (ledger.write hand now id (.session channel title roster)) :=
  .session new

theorem oneRow_story {sessionId : Int} {title : String}
    (new : (Change.story sessionId title).NewIn id ledger) :
    OneRow hand now ledger (.story sessionId title)
      (ledger.write hand now id (.story sessionId title)) :=
  .story new

theorem oneRow_vote {storyId : Int} {user : String} {value : Number}
    (new : (Change.vote storyId user value).NewIn id ledger) :
    OneRow hand now ledger (.vote storyId user value)
      (ledger.write hand now id (.vote storyId user value)) :=
  .vote new

/-- Of stories with ids of their own, one is estimated. -/
theorem oneRow_estimate (numbered : ledger.Numbered) {line : StoryLine}
    (member : line ∈ ledger.stories) (pending : line.estimation = none) (hours : Number) :
    OneRow hand now ledger (.estimate line.id hours)
      (ledger.write hand now id (.estimate line.id hours)) := by
  obtain ⟨earlier, later, row⟩ := List.append_of_mem member
  have keys := numbered.stories
  rw [row] at keys
  have marked := map_at_key keys
    fun line => { line with estimation := some (hand.number hours) }
  rw [write, row, marked]
  exact .estimate row pending

/-- Of sessions with ids of their own, one is finished. -/
theorem oneRow_finish (numbered : ledger.Numbered) {line : SessionLine}
    (member : line ∈ ledger.sessions) (unfinished : line.finishedAt = none) :
    OneRow hand now ledger (.finish line.id) (ledger.write hand now id (.finish line.id)) := by
  obtain ⟨earlier, later, row⟩ := List.append_of_mem member
  have keys := numbered.sessions
  rw [row] at keys
  have marked := map_at_key keys fun line => { line with finishedAt := some (hand.time now) }
  rw [write, row, marked]
  exact .finish row unfinished

end Ledger

variable {σ : Type}

/-- A call that fails changes nothing; one that answers has done this. -/
def Attempt {α : Type} (before : σ) (done : α → σ → Prop) : Except StoreError α × σ → Prop
  | (.ok answer, after) => done answer after
  | (.error _, after) => after = before

theorem Attempt.of_ok {α : Type} {before after : σ} {done : α → σ → Prop}
    {outcome : Except StoreError α × σ} {answer : α} (attempt : Attempt before done outcome)
    (ok : outcome = (.ok answer, after)) : done answer after := by
  subst ok
  exact attempt

/-- What holds before a call and after all that it can do holds after it. -/
theorem Attempt.state {α : Type} {before : σ} {done : α → σ → Prop}
    {outcome : Except StoreError α × σ} {P : σ → Prop} (attempt : Attempt before done outcome)
    (unchanged : P before) (kept : ∀ answer after, done answer after → P after) : P outcome.2 := by
  obtain ⟨result, after⟩ := outcome
  cases result with
  | ok answer => exact kept answer after attempt
  | error error =>
      have same : after = before := attempt
      rwa [same]

/-- One change was written under a new id, and the store is in order again. -/
structure Written (ledger : σ → Ledger) (hand : Hand) (Sound : σ → Prop) (now : Instant)
    (change : Change) (id : Int) (before after : σ) : Prop where
  new : change.NewIn id (ledger before)
  ledger_eq : ledger after = (ledger before).write hand now id change
  sound : Sound after

/-- What each call does to the rows of a store. -/
structure Bookkeeping (store : Backend σ) where
  hand : Hand
  ledger : σ → Ledger
  /-- The state is in order: new rows will get new ids. -/
  Sound : σ → Prop
  numbered {s} (sound : Sound s) : (ledger s).Numbered
  startSession {s} (sound : Sound s) (now : Instant) (channel title csv : String) :
    Attempt s (fun session after => session.title = title ∧ ∃ id,
        Written ledger hand Sound now (.session channel title (.ofCsv csv)) id s after)
      (store.startSession now channel title csv s)
  startStory {s} (sound : Sound s) (now : Instant) (sessionId : Int) (title : String) :
    Attempt s (fun story after => story.title = title ∧ ∃ id,
        Written ledger hand Sound now (.story sessionId title) id s after)
      (store.startStory now sessionId title s)
  castVote {s} (sound : Sound s) (now : Instant) (storyId : Int) (user value : String) :
    Attempt s (fun _ after => ∃ number id, parseNumber "vote" value = .ok number ∧
        Written ledger hand Sound now (.vote storyId user number) id s after)
      (store.castVote now storyId user value s)
  setEstimation {s} (sound : Sound s) (now : Instant) (storyId : Int) (hours : String) :
    Attempt s (fun _ after => ∃ number id, parseNumber "estimation" hours = .ok number ∧
        Written ledger hand Sound now (.estimate storyId number) id s after)
      (store.setEstimation storyId hours s)
  finishSession {s} (sound : Sound s) (now : Instant) (sessionId : Int) :
    Attempt s (fun _ after => ∃ id, Written ledger hand Sound now (.finish sessionId) id s after)
      (store.finishSession now sessionId s)
  currentSession (channel : String) (s : σ) : (store.currentSession channel s).2 = s
  currentStory (sessionId : Int) (s : σ) : (store.currentStory sessionId s).2 = s
  votesFor (storyId : Int) (s : σ) : (store.votesFor storyId s).2 = s
  storiesFor (sessionId : Int) (s : σ) : (store.storiesFor sessionId s).2 = s
  estimatedStoriesFor (sessionId : Int) (s : σ) : (store.estimatedStoriesFor sessionId s).2 = s
  /-- The current session of a channel is an unfinished row of it. -/
  unfinished {channel s session}
    (current : (store.currentSession channel s).1 = .ok (some session)) :
    ∃ line ∈ (ledger s).sessions,
      line.id = session.id ∧ line.channel = channel ∧ line.finishedAt = none
  /-- The current story of a session is a row of it without an estimation. -/
  pending {sessionId s story} (current : (store.currentStory sessionId s).1 = .ok (some story)) :
    ∃ line ∈ (ledger s).stories,
      line.id = story.id ∧ line.sessionId = sessionId ∧ line.estimation = none

end ChatRobots.Poker
