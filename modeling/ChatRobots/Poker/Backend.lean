/-
Module: ChatRobots.Poker.Backend
Purpose: What a store of sessions, stories and votes has to offer.
Main exports: Backend, Backend.within
-/
import ChatRobots.StoreError
import ChatRobots.Poker.Basic

namespace ChatRobots.Poker

/-!
A backend is a family of calls over some state.  Calls that write a time take it as an argument,
so that a run is a function of its inputs.  Every call reads the state afresh: nothing that an
earlier call answered is remembered.
-/

/-- The calls of a poker store with states `σ`. -/
structure Backend (σ : Type) where
  startSession (now : Instant) (channel title csv : String) : Act σ Session
  /-- The newest session of the channel that is not finished. -/
  currentSession (channel : String) : Act σ (Option Session)
  startStory (now : Instant) (sessionId : Int) (title : String) : Act σ Story
  /-- The newest story of the session without an estimation. -/
  currentStory (sessionId : Int) : Act σ (Option Story)
  castVote (now : Instant) (storyId : Int) (user value : String) : Act σ Vote
  /-- The votes on the story in the order they were cast. -/
  votesFor (storyId : Int) : Act σ (List Vote)
  setEstimation (storyId : Int) (hours : String) : Act σ Unit
  finishSession (now : Instant) (sessionId : Int) : Act σ Unit
  /-- The stories of the session in the order they were started. -/
  storiesFor (sessionId : Int) : Act σ (List Story)
  /-- Those stories of the session that have an estimation. -/
  estimatedStoriesFor (sessionId : Int) : Act σ (List Story)

namespace Backend

/-- A backend over a part of a larger state. -/
def within {σ τ : Type} (get : τ → σ) (set : σ → τ → τ) (backend : Backend σ) : Backend τ where
  startSession now channel title csv :=
    (backend.startSession now channel title csv).within get set
  currentSession channel := (backend.currentSession channel).within get set
  startStory now sessionId title := (backend.startStory now sessionId title).within get set
  currentStory sessionId := (backend.currentStory sessionId).within get set
  castVote now storyId user value := (backend.castVote now storyId user value).within get set
  votesFor storyId := (backend.votesFor storyId).within get set
  setEstimation storyId hours := (backend.setEstimation storyId hours).within get set
  finishSession now sessionId := (backend.finishSession now sessionId).within get set
  storiesFor sessionId := (backend.storiesFor sessionId).within get set
  estimatedStoriesFor sessionId := (backend.estimatedStoriesFor sessionId).within get set

end Backend

end ChatRobots.Poker
