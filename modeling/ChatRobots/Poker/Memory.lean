/-
Module: ChatRobots.Poker.Memory
Purpose: The poker store that lives in the process.
Main exports: Memory, Memory.backend
-/
import ChatRobots.Poker.Backend

namespace ChatRobots.Poker

/-!
Sessions, stories and votes are lists in the order of their insertion, and one counter gives the
ids of all three.  A story or vote is kept whether or not its session or story exists, and an
update of an unknown id changes nothing.  The store can be told to fail; from then on every call
fails and changes nothing.
-/

/-- The state of the store. -/
structure Memory where
  lastId : Int := 0
  sessions : List Session := []
  stories : List Story := []
  votes : List Vote := []
  failure : Option StoreError := none

namespace Memory

/-- Change the first element that satisfies the test. -/
def updateFirst {α : Type} (test : α → Bool) (change : α → α) : List α → List α
  | [] => []
  | a :: rest => if test a then change a :: rest else a :: updateFirst test change rest

/-- The last element that satisfies the test. -/
def findLast? {α : Type} (test : α → Bool) (list : List α) : Option α :=
  list.reverse.find? test

/-- Run a call unless the store was told to fail. -/
def guarded {α : Type} (act : Act Memory α) : Act Memory α := fun memory =>
  match memory.failure with
  | some error => (.error error, memory)
  | none => act memory

/-- Answer a question about the state. -/
def ask {α : Type} (question : Memory → α) : Act Memory α :=
  guarded fun memory => (.ok (question memory), memory)

def startSession (now : Instant) (channel title csv : String) : Act Memory Session :=
  guarded fun memory =>
    let id := memory.lastId + 1
    let session : Session := ⟨id, channel, title, Roster.ofCsv csv, now, none⟩
    (.ok session, { memory with lastId := id, sessions := memory.sessions ++ [session] })

def currentSession (channel : String) : Act Memory (Option Session) :=
  ask fun memory => findLast?
    (fun session => session.channel == channel && session.finishedAt.isNone) memory.sessions

def startStory (now : Instant) (sessionId : Int) (title : String) : Act Memory Story :=
  guarded fun memory =>
    let id := memory.lastId + 1
    let story : Story := ⟨id, sessionId, title, none, now⟩
    (.ok story, { memory with lastId := id, stories := memory.stories ++ [story] })

def currentStory (sessionId : Int) : Act Memory (Option Story) :=
  ask fun memory => findLast?
    (fun story => story.sessionId == sessionId && story.estimation.isNone) memory.stories

def castVote (now : Instant) (storyId : Int) (user value : String) : Act Memory Vote :=
  guarded fun memory =>
    match parseNumber "vote" value with
    | .error error => (.error error, memory)
    | .ok number =>
        let id := memory.lastId + 1
        let vote : Vote := ⟨id, storyId, user, number, now⟩
        (.ok vote, { memory with lastId := id, votes := memory.votes ++ [vote] })

def votesFor (storyId : Int) : Act Memory (List Vote) :=
  ask fun memory => memory.votes.filter (·.storyId == storyId)

def setEstimation (storyId : Int) (hours : String) : Act Memory Unit :=
  guarded fun memory =>
    match parseNumber "estimation" hours with
    | .error error => (.error error, memory)
    | .ok number =>
        let stories := updateFirst (fun story => story.id == storyId)
          (fun story => { story with estimation := some number }) memory.stories
        (.ok (), { memory with stories := stories })

def finishSession (now : Instant) (sessionId : Int) : Act Memory Unit :=
  guarded fun memory =>
    let sessions := updateFirst (fun session => session.id == sessionId)
      (fun session => { session with finishedAt := some now }) memory.sessions
    (.ok (), { memory with sessions := sessions })

def storiesFor (sessionId : Int) : Act Memory (List Story) :=
  ask fun memory => memory.stories.filter (·.sessionId == sessionId)

def estimatedStoriesFor (sessionId : Int) : Act Memory (List Story) :=
  ask fun memory => memory.stories.filter fun story =>
    story.sessionId == sessionId && story.estimation.isSome

/-- The calls of the store in memory. -/
def backend : Backend Memory where
  startSession := startSession
  currentSession := currentSession
  startStory := startStory
  currentStory := currentStory
  castVote := castVote
  votesFor := votesFor
  setEstimation := setEstimation
  finishSession := finishSession
  storiesFor := storiesFor
  estimatedStoriesFor := estimatedStoriesFor

/-- Make every later call fail. -/
def failWith (error : StoreError) (memory : Memory) : Memory :=
  { memory with failure := some error }

end Memory

end ChatRobots.Poker
