/-
Module: ChatRobots.Poker.Round
Purpose: Runs of the game: moves, their answers, and the sessions and stories started so far.
Main exports: Move, Answer, Round, Round.play, Round.playAll
-/
import ChatRobots.Poker.Table

namespace ChatRobots.Poker

/-!
A round is the state of a store together with the sessions and the stories that were started in
it, in order.  A move names them by their places in these lists and uses them as they were when
they were started: it does not read them again.  A move whose place is not there is no move, and
changes nothing.
-/

/-- One request of a player at the table; sessions and stories are named by their places. -/
inductive Move where
  | startSession (channel title csv : String)
  | currentSession (channel : String)
  | startStory (session : Nat) (title : String)
  | currentStory (session : Nat)
  | castVote (session story : Nat) (user value : String)
  | reveal (story : Nat)
  | setEstimation (story : Nat) (hours : String)
  | finish (session : Nat)
  | stories (session : Nat)
  | estimated (session : Nat)
  | status (channel : String)
  | snapshot (channel : String)
deriving DecidableEq, Repr

/-- What a move is answered with. -/
inductive Answer where
  | session (session : Session)
  | session? (session : Option Session)
  | storyStart (start : StoryStart)
  | story? (story : Option Story)
  | receipt (receipt : VoteReceipt)
  | votes (votes : List Vote)
  | done
  | stories (stories : List Story)
  | status (status : Option SessionStatus)
  | snapshot (snapshot : Option Snapshot)
  | failed (error : StoreError)
  /-- The move names a session or a story that was never started. -/
  | noSuchPlace
deriving DecidableEq

/-- A store with the sessions and stories started in it. -/
structure Round (σ : Type) where
  store : σ
  sessions : List Session := []
  stories : List Story := []

namespace Round

variable {σ : Type} (backend : Backend σ)

/-- Run a call on the store and put its answer into words. -/
def ask {α : Type} (round : Round σ) (act : Act σ α) (answer : α → Answer) : Answer × Round σ :=
  match act round.store with
  | (.ok a, store) => (answer a, { round with store := store })
  | (.error error, store) => (.failed error, { round with store := store })

/-- Use the session at a place. -/
def withSession (round : Round σ) (place : Nat)
    (use : Session → Answer × Round σ) : Answer × Round σ :=
  match round.sessions[place]? with
  | some session => use session
  | none => (.noSuchPlace, round)

/-- Use the story at a place. -/
def withStory (round : Round σ) (place : Nat)
    (use : Story → Answer × Round σ) : Answer × Round σ :=
  match round.stories[place]? with
  | some story => use story
  | none => (.noSuchPlace, round)

/-- Remember what a move has started. -/
def remember : Answer × Round σ → Answer × Round σ
  | (.session session, round) =>
      (.session session, { round with sessions := round.sessions ++ [session] })
  | (.storyStart (.started story), round) =>
      (.storyStart (.started story), { round with stories := round.stories ++ [story] })
  | other => other

/-- Make one move at this time. -/
def play (now : Instant) (move : Move) (round : Round σ) : Answer × Round σ :=
  match move with
  | .startSession channel title csv =>
      remember (round.ask (Table.startSession backend now channel title csv) .session)
  | .currentSession channel => round.ask (Table.currentSession backend channel) .session?
  | .startStory session title => round.withSession session fun session =>
      remember (round.ask (Table.startStory backend now session title) .storyStart)
  | .currentStory session => round.withSession session fun session =>
      round.ask (Table.currentStory backend session) .story?
  | .castVote session story user value => round.withSession session fun session =>
      round.withStory story fun story =>
        round.ask (Table.castVote backend now session story user value) .receipt
  | .reveal story => round.withStory story fun story =>
      round.ask (Table.revealVotes backend story) .votes
  | .setEstimation story hours => round.withStory story fun story =>
      round.ask (Table.setEstimation backend story hours) fun _ => .done
  | .finish session => round.withSession session fun session =>
      round.ask (Table.finishSession backend now session) fun _ => .done
  | .stories session => round.withSession session fun session =>
      round.ask (Table.stories backend session) .stories
  | .estimated session => round.withSession session fun session =>
      round.ask (Table.estimatedStories backend session) .stories
  | .status channel => round.ask (Table.status backend channel) .status
  | .snapshot channel => round.ask (Table.snapshot backend channel) .snapshot

/-- Make moves one after another: their answers, and the round after them. -/
def playAll : List (Instant × Move) → Round σ → List Answer × Round σ
  | [], round => ([], round)
  | (now, move) :: rest, round =>
      let (answer, round) := play backend now move round
      let (answers, round) := playAll rest round
      (answer :: answers, round)

end Round

end ChatRobots.Poker
