/-
Module: ChatRobots.Poker.Call
Purpose: Calls of a poker store as data, with ids that need not exist.
Main exports: Call, Call.run, Call.runAll
-/
import ChatRobots.Poker.Round

namespace ChatRobots.Poker

/-!
A call of the store names sessions and stories by id, whether or not the store has them.  Runs of
calls are the finest view of what a store does: every move of the game is a sequence of them.
-/

/-- A call of a poker store. -/
inductive Call where
  | startSession (channel title csv : String)
  | currentSession (channel : String)
  | startStory (sessionId : Int) (title : String)
  | currentStory (sessionId : Int)
  | castVote (storyId : Int) (user value : String)
  | votesFor (storyId : Int)
  | setEstimation (storyId : Int) (hours : String)
  | finishSession (sessionId : Int)
  | storiesFor (sessionId : Int)
  | estimatedStoriesFor (sessionId : Int)
deriving DecidableEq, Repr

/-- What a call answers when it does not fail. -/
inductive CallAnswer where
  | session (session : Session)
  | session? (session : Option Session)
  | story (story : Story)
  | story? (story : Option Story)
  | vote (vote : Vote)
  | votes (votes : List Vote)
  | done
  | stories (stories : List Story)
deriving DecidableEq

namespace Call

variable {σ : Type} (backend : Backend σ)

/-- Make the call at this time. -/
def run (now : Instant) : Call → Act σ CallAnswer
  | startSession channel title csv => .session <$> backend.startSession now channel title csv
  | currentSession channel => .session? <$> backend.currentSession channel
  | startStory sessionId title => .story <$> backend.startStory now sessionId title
  | currentStory sessionId => .story? <$> backend.currentStory sessionId
  | castVote storyId user value => .vote <$> backend.castVote now storyId user value
  | votesFor storyId => .votes <$> backend.votesFor storyId
  | setEstimation storyId hours => (fun _ => .done) <$> backend.setEstimation storyId hours
  | finishSession sessionId => (fun _ => .done) <$> backend.finishSession now sessionId
  | storiesFor sessionId => .stories <$> backend.storiesFor sessionId
  | estimatedStoriesFor sessionId => .stories <$> backend.estimatedStoriesFor sessionId

/-- Make calls one after another, each at its time. -/
def runAll : List (Instant × Call) → σ → List (Except StoreError CallAnswer) × σ :=
  Act.runAll fun call => run backend call.1 call.2

end Call

end ChatRobots.Poker
