/-
Module: ChatRobots.Robot.Poker
Purpose: The robot for planning poker.
Main exports: PokerAction, PokerRobot.router, PokerRobot.handle, PokerRobot.robot
-/
import ChatRobots.Number.Writer
import ChatRobots.Poker.Table
import ChatRobots.Robot.Registry
import ChatRobots.Robot.Router

namespace ChatRobots

/-!
Every command is about the current session of the channel that it comes from, and most of them
about the current story of that session.  Where one of the two is missing the robot says how to
start it, and nothing else happens.
-/

inductive PokerAction where
  | status
  | startSession
  | startStory
  | vote
  | reveal
  | estimate
  | finish
deriving DecidableEq, Repr

namespace PokerRobot

open Poker

def messenger (teamDomain : Option String) : Messenger :=
  ⟨BotIdentity.ofTexts "Poker" ":game_die:", teamDomain⟩

def router (messenger : Messenger) : Router PokerAction :=
  Router.new "poker" messenger
    |>.register "status" .status
    |>.registerMany ["start", "session"] .startSession
    |>.registerMany ["story", "s"] .startStory
    |>.registerMany ["vote", "v"] .vote
    |>.register "reveal" .reveal
    |>.registerMany ["estimate", "set", "track"] .estimate
    |>.register "finish" .finish

/-- The votes on a story, one to a line. -/
def revealListing (story : Story) (votes : List Vote) : String :=
  "Votes for *" ++ story.title ++ "*:" ++
    String.join (votes.map fun vote =>
      "\n- *" ++ vote.user ++ "* voted *" ++ vote.value.fixed2 ++ "* hours")

/-- The hours of a story, with two places. -/
def hoursLabel (story : Story) : String :=
  match story.estimation with
  | some hours => hours.fixed2
  | none => "not estimated"

/-- The stories of a finished session, one to a line. -/
def summary (session : Session) (stories : List Story) : String :=
  "Finished poker session for *" ++ session.title ++ "*." ++
    (if stories.isEmpty then ""
     else "\n\nThe following stories were estimated:" ++
      String.join (stories.map fun story =>
        "\n*" ++ story.title ++ "* - Hours: " ++ hoursLabel story))

/-- The lines about the story that is being estimated. -/
def currentLines : Option CurrentStory → List String
  | none => ["There are no stories waiting for estimations. You can use `/poker story` to " ++
      "start a new one or `/poker finish` to finish this session."]
  | some current =>
      let voters := current.voters
      ["We are estimating the story *" ++ current.story.title ++ "*",
        if voters.isEmpty then "No one voted yet"
        else "The following users already voted: " ++ ", ".intercalate voters]

/-- How far the session has come, in words. -/
def statusText (status : SessionStatus) : String :=
  let counted := if status.estimatedCount = 0 then []
    else ["We have estimated " ++ toString status.estimatedCount ++
      (if status.estimatedCount = 1 then " story" else " stories") ++ " so far."]
  "\n".intercalate <|
    ["We are playing a poker planning session called *" ++ status.session.title ++ "*"]
    ++ counted ++ currentLines status.current

variable {σ : Type} (store : Backend σ) (clock : Clock) (messenger : Messenger)

/-- The current session of the channel; without one, say how to start it. -/
def requireSession (payload : Payload) : Handling σ (Option Session) := do
  match ← callStore (Table.currentSession store payload.channelName) with
  | some session => pure (some session)
  | none => do
      messenger.say payload ("No active poker session on *" ++ payload.channelName ++
        "*. Use `/poker session` to start a new session.")
      pure none

/-- The current session and its current story; where one is missing, say how to start it. -/
def requireStory (payload : Payload) : Handling σ (Option (Session × Story)) := do
  match ← requireSession store messenger payload with
  | none => pure none
  | some session =>
      match ← callStore (Table.currentStory store session) with
      | some story => pure (some (session, story))
      | none => do
          messenger.say payload ("No current story on *" ++ payload.channelName ++
            "*. Use `/poker story` to start a new story.")
          pure none

def status (payload : Payload) : Handling σ Unit := do
  match ← callStore (Table.status store payload.channelName) with
  | none => messenger.say payload ("No active poker session on *" ++ payload.channelName ++ "*.")
  | some status => messenger.say payload (statusText status)

def startSession (payload : Payload) (command : Command) : Handling σ Unit := do
  let title := command.strFrom 0
  if title = "" then
    messenger.say payload "You need to give the session a title: `/poker session <title>`"
  else do
    let session ← callStore
      (Table.startSession store clock.now payload.channelName title (command.param "users"))
    messenger.say payload ("Started poker session for *" ++ session.title ++ "*")

/-- The reply to the wish to start a story. -/
def storyStartText : StoryStart → String
  | .started story => "We can now vote for *" ++ story.title ++ "*"
  | .blocked pending => "Cannot start a new story until you estimate *" ++ pending.title ++ "*"

def startStory (payload : Payload) (command : Command) : Handling σ Unit := do
  match ← requireSession store messenger payload with
  | none => pure ()
  | some session =>
      let title := command.strFrom 0
      if title = "" then
        messenger.say payload "You need to give the story a title: `/poker story <title>`"
      else do
        let start ← callStore (Table.startStory store clock.now session title)
        messenger.say payload (storyStartText start)

/-- Announce the votes once everyone has voted. -/
def announce (payload : Payload) (story : Story) : RosterCheck → Handling σ Unit
  | .complete votes => do
      messenger.say payload "Everyone voted, revealing votes."
      messenger.say payload (revealListing story votes)
  | .untracked | .waiting _ => pure ()

def vote (payload : Payload) (command : Command) : Handling σ Unit := do
  match ← requireStory store messenger payload with
  | none => pure ()
  | some (session, story) => do
      let args ← requireArgs command ["vote"]
      let receipt ← callStore
        (Table.castVote store clock.now session story payload.userName (args.headD ""))
      messenger.say payload ("Vote cast for *" ++ payload.userName ++ "*")
      announce messenger payload story receipt.roster

def reveal (payload : Payload) : Handling σ Unit := do
  match ← requireStory store messenger payload with
  | none => pure ()
  | some (_, story) => do
      let votes ← callStore (Table.revealVotes store story)
      messenger.say payload (revealListing story votes)

def estimate (payload : Payload) (command : Command) : Handling σ Unit := do
  match ← requireStory store messenger payload with
  | none => pure ()
  | some (_, story) => do
      let args ← requireArgs command ["hours"]
      let hours := args.headD ""
      callStore (Table.setEstimation store story hours)
      messenger.say payload
        ("Tracked estimation of *" ++ hours ++ "* hours for *" ++ story.title ++ "*")

def finish (payload : Payload) : Handling σ Unit := do
  match ← requireSession store messenger payload with
  | none => pure ()
  | some session => do
      callStore (Table.finishSession store clock.now session)
      let stories ← callStore (Table.stories store session)
      messenger.say payload (summary session stories)

/-- Perform an action. -/
def handle : Router.Handler PokerAction σ := fun action payload command =>
  match action with
  | .status => status store messenger payload
  | .startSession => startSession store clock messenger payload command
  | .startStory => startStory store clock messenger payload command
  | .vote => vote store clock messenger payload command
  | .reveal => reveal store messenger payload
  | .estimate => estimate store messenger payload command
  | .finish => finish store clock messenger payload

/-- The robot over a poker store. -/
def robot (teamDomain : Option String) : Robot σ where
  name := "Poker"
  description := "Planning poker sessions, stories and votes"
  messenger := PokerRobot.messenger teamDomain
  run clock payload := do
    let messenger := PokerRobot.messenger teamDomain
    let _ ← (router messenger).dispatch (handle store clock messenger) payload payload.text
    pure .finished

end PokerRobot

end ChatRobots
