/-
Module: ChatRobots.Poker.Table
Purpose: The rules of planning poker over any store.
Main exports: Table, StoryStart, RosterCheck, VoteReceipt, SessionStatus, Snapshot
-/
import ChatRobots.Poker.Backend

namespace ChatRobots.Poker

/-!
A table applies the rules of the game to a store: a story starts only when no other one of its
session waits for an estimation, and votes are revealed once everyone on the roster has voted.
It keeps no state; each rule is a sequence of calls of the store.
-/

/-- The answer to the wish to start a story. -/
inductive StoryStart where
  | started (story : Story)
  /-- Another story of the session waits for its estimation; nothing was written. -/
  | blocked (pending : Story)
deriving DecidableEq

/-- Where the roster stands after a vote. -/
inductive RosterCheck where
  | untracked
  | waiting (outstanding : List String)
  | complete (votes : List Vote)
deriving DecidableEq

/-- A vote that was written, and where the roster stands with it. -/
structure VoteReceipt where
  vote : Vote
  roster : RosterCheck
deriving DecidableEq

namespace VoteReceipt

/-- The votes that the receipt reveals. -/
def revealed? (receipt : VoteReceipt) : Option (List Vote) :=
  match receipt.roster with
  | .complete votes => some votes
  | .untracked | .waiting _ => none

end VoteReceipt

/-- A story that waits for its estimation, with its votes. -/
structure CurrentStory where
  story : Story
  votes : List Vote
deriving DecidableEq

namespace CurrentStory

/-- The distinct voters, in the order of their first votes. -/
def voters (current : CurrentStory) : List String :=
  current.votes.foldl (fun seen vote => if seen.contains vote.user then seen else
    seen ++ [vote.user]) []

end CurrentStory

/-- How far a session has come. -/
structure SessionStatus where
  session : Session
  estimatedCount : Nat
  current : Option CurrentStory
deriving DecidableEq

/-- A session with all its stories. -/
structure Snapshot where
  session : Session
  stories : List Story
deriving DecidableEq

namespace Table

variable {σ : Type} (store : Backend σ)

/-- Open a session, whether or not the channel has one already. -/
def startSession (now : Instant) (channel title csv : String) : Act σ Session :=
  store.startSession now channel title csv

def currentSession (channel : String) : Act σ (Option Session) :=
  store.currentSession channel

def startStory (now : Instant) (session : Session) (title : String) : Act σ StoryStart := do
  match ← store.currentStory session.id with
  | some pending => pure (.blocked pending)
  | none => do
      let story ← store.startStory now session.id title
      pure (.started story)

def currentStory (session : Session) : Act σ (Option Story) :=
  store.currentStory session.id

def revealVotes (story : Story) : Act σ (List Vote) :=
  store.votesFor story.id

/-- Write a vote; reveal all votes on the story once nobody on the roster is outstanding. -/
def castVote (now : Instant) (session : Session) (story : Story) (user value : String) :
    Act σ VoteReceipt := do
  let vote ← store.castVote now story.id user value
  if session.roster.isEmpty then pure ⟨vote, .untracked⟩
  else do
    let votes ← store.votesFor story.id
    let outstanding := session.roster.outstanding (votes.map (·.user))
    if outstanding.isEmpty then do
      let revealed ← revealVotes store story
      pure ⟨vote, .complete revealed⟩
    else pure ⟨vote, .waiting outstanding⟩

def setEstimation (story : Story) (hours : String) : Act σ Unit :=
  store.setEstimation story.id hours

def finishSession (now : Instant) (session : Session) : Act σ Unit :=
  store.finishSession now session.id

def stories (session : Session) : Act σ (List Story) :=
  store.storiesFor session.id

def estimatedStories (session : Session) : Act σ (List Story) :=
  store.estimatedStoriesFor session.id

/-- The votes on the story that is being voted on, if there is one. -/
def withVotes : Option Story → Act σ (Option CurrentStory)
  | none => pure none
  | some story => do
      let votes ← revealVotes store story
      pure (some ⟨story, votes⟩)

def status (channel : String) : Act σ (Option SessionStatus) := do
  match ← currentSession store channel with
  | none => pure none
  | some session => do
      let estimated ← estimatedStories store session
      let story ← currentStory store session
      let current ← withVotes store story
      pure (some ⟨session, estimated.length, current⟩)

def snapshot (channel : String) : Act σ (Option Snapshot) := do
  match ← currentSession store channel with
  | none => pure none
  | some session => do
      let stories ← stories store session
      pure (some ⟨session, stories⟩)

end Table

end ChatRobots.Poker
