/-
Module: ChatRobots.Poker.Basic
Purpose: Sessions, stories, votes and the roster of expected voters.
Main exports: Roster, Session, Story, Vote, SessionState, StoryState
-/
import ChatRobots.Text.Blank
import ChatRobots.Text.Split
import ChatRobots.Number.Basic
import ChatRobots.Calendar.Instant

namespace ChatRobots.Poker

/-!
A session belongs to a channel and holds stories one after another; a story collects votes until
it gets an estimation.  A session is finished once it has a finishing time and a story estimated
once it has an estimation: the states are read off these fields and stored nowhere else.

A roster is the list of voters that a session waits for.  It is written as names with commas
between them, so a name on it is not empty, has no comma, and no blank at either end.
-/

/-- Voters that a session expects, in the order given. -/
structure Roster where
  users : List String
deriving DecidableEq, Repr

namespace Roster

/-- The names between the commas, blanks at their ends and empty names left out. -/
def ofCsv (csv : String) : Roster :=
  ⟨(((Text.pieces ',' csv.toList).map Text.trim).filter fun name => !name.isEmpty).map
    String.ofList⟩

/-- The names with commas between them. -/
def toCsv (roster : Roster) : String :=
  String.ofList (Text.join ',' (roster.users.map String.toList))

/-- Nobody is expected, so nothing is ever complete. -/
def isEmpty (roster : Roster) : Bool :=
  roster.users.isEmpty

/-- The expected voters who are not among `voters`, in roster order. -/
def outstanding (roster : Roster) (voters : List String) : List String :=
  roster.users.filter fun user => !voters.contains user

end Roster

inductive SessionState where
  | opened
  | finished
deriving DecidableEq, Repr

inductive StoryState where
  | pending
  | estimated
deriving DecidableEq, Repr

/-- A round of planning in a channel. -/
structure Session where
  id : Int
  channel : String
  title : String
  roster : Roster
  createdAt : Instant
  finishedAt : Option Instant
deriving DecidableEq

namespace Session

def state (session : Session) : SessionState :=
  if session.finishedAt.isSome then .finished else .opened

end Session

/-- A piece of work to be estimated, in hours. -/
structure Story where
  id : Int
  sessionId : Int
  title : String
  estimation : Option Number
  createdAt : Instant
deriving DecidableEq

namespace Story

def state (story : Story) : StoryState :=
  if story.estimation.isSome then .estimated else .pending

end Story

/-- One vote of one user on one story. -/
structure Vote where
  id : Int
  storyId : Int
  user : String
  value : Number
  createdAt : Instant
deriving DecidableEq

end ChatRobots.Poker
