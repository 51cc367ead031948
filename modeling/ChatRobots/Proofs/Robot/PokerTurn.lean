/-
Module: ChatRobots.Proofs.Robot.PokerTurn
Purpose: What a payload comes to for the poker robot, read off a board.
Main exports: Turn, PokerRobot.turn, PokerRobot.answer, Turn.Alike, PokerRobot.answer_alike,
  PokerRobot.answer_about, PokerRobot.answer_free
-/
import ChatRobots.Robot.Poker
import ChatRobots.Proofs.Poker.Alike
import ChatRobots.Proofs.Poker.Channels

namespace ChatRobots

open Poker

/-!
Handling a payload says one thing, or fails, or makes one change and then says something about it.
Which of these it is can be read off the part of the board that belongs to the channel of the
payload; the rest of the board plays no role.  What is said after a change is read off the same
part of the board with the change made.

A turn changes nothing outside of its channel, and starts a story only where none waits.  On parts
that are alike it says the same and makes changes that are alike.
-/

/-- What handling a command comes to. -/
inductive Turn where
  | tells (text : String)
  | fails (error : RobotError)
  | writes (change : Change) (texts : Board → List String)

namespace Turn

/-- What is said in the end, this being the part of the board then. -/
def texts (after : Board) : Turn → List String
  | tells text => [text]
  | fails error => ["Error running Poker command: " ++ error.message]
  | writes _ texts => texts after

/-- The time of the row that is inserted, if one is. -/
def stamps (now : Instant) : Turn → List Instant
  | writes (.session ..) _ | writes (.story ..) _ | writes (.vote ..) _ => [now]
  | _ => []

/-- This holds of the change, if there is one. -/
def Changes (holds : Change → Prop) : Turn → Prop
  | writes change _ => holds change
  | _ => True

end Turn

namespace PokerRobot

def noSession (payload : Payload) : String :=
  "No active poker session on *" ++ payload.channelName ++
    "*. Use `/poker session` to start a new session."

def noStory (payload : Payload) : String :=
  "No current story on *" ++ payload.channelName ++
    "*. Use `/poker story` to start a new story."

/-- What is said of the roster after a vote. -/
def announcement (story : Story) : RosterCheck → List String
  | .complete votes => ["Everyone voted, revealing votes.", revealListing story votes]
  | .untracked | .waiting _ => []

section Turns

variable (part : Board) (payload : Payload)

def ofSession (use : Session → Turn) : Turn :=
  match part.currentSession payload.channelName with
  | some session => use session
  | none => .tells (noSession payload)

def ofStory (use : Session → Story → Turn) : Turn :=
  ofSession part payload fun session =>
    match part.currentStory session.id with
    | some story => use session story
    | none => .tells (noStory payload)

def ofArgs (command : Command) (names : List String) (use : List String → Turn) : Turn :=
  match command.requireArgs names with
  | .ok args => use args
  | .error usage => .fails (.missingArguments usage)

def ofNumber (field text : String) (use : Number → Turn) : Turn :=
  match parseNumber field text with
  | .ok number => use number
  | .error error => .fails (.store error)

def statusReply (status : Option SessionStatus) : String :=
  match status with
  | none => "No active poker session on *" ++ payload.channelName ++ "*."
  | some status => statusText status

/-- What an action comes to, read off the part of the board that belongs to the channel. -/
def turn (command : Command) : PokerAction → Turn
  | .status => .tells (statusReply payload (part.status payload.channelName))
  | .startSession =>
      if command.strFrom 0 = "" then
        .tells "You need to give the session a title: `/poker session <title>`"
      else
        .writes (.session payload.channelName (command.strFrom 0) (.ofCsv (command.param "users")))
          fun _ => ["Started poker session for *" ++ command.strFrom 0 ++ "*"]
  | .startStory => ofSession part payload fun session =>
      if command.strFrom 0 = "" then
        .tells "You need to give the story a title: `/poker story <title>`"
      else
        match part.currentStory session.id with
        | some pending => .tells (storyStartText (.blocked pending))
        | none => .writes (.story session.id (command.strFrom 0))
            fun _ => ["We can now vote for *" ++ command.strFrom 0 ++ "*"]
  | .vote => ofStory part payload fun session story =>
      ofArgs command ["vote"] fun args =>
        ofNumber "vote" (args.headD "") fun number =>
          .writes (.vote story.id payload.userName number) fun after =>
            ("Vote cast for *" ++ payload.userName ++ "*") ::
              announcement story (.ofVotes session.roster (after.votesOn story.id))
  | .reveal => ofStory part payload fun _ story =>
      .tells (revealListing story (part.votesOn story.id))
  | .estimate => ofStory part payload fun _ story =>
      ofArgs command ["hours"] fun args =>
        ofNumber "estimation" (args.headD "") fun number =>
          .writes (.estimate story.id number) fun _ =>
            ["Tracked estimation of *" ++ args.headD "" ++ "* hours for *" ++ story.title ++ "*"]
  | .finish => ofSession part payload fun session =>
      .writes (.finish session.id) fun after =>
        [summary session (after.storiesOf session.id)]

/-- What a payload comes to: an action, or the list of the verbs. -/
def answer (messenger : Messenger) : Turn :=
  let command := Command.parse payload.text
  let router := router messenger
  if command.isDefault then .tells ("You must enter a command.\n" ++ router.helpText)
  else if command.verb = "help" then .tells router.helpText
  else match router.verbs.find? command.verb with
    | some action => turn part payload command action
    | none => .tells ("Invalid command *" ++ command.verb ++ "*\n" ++ router.helpText)

end Turns

end PokerRobot

/-- At most one row is inserted, at the time of the turn. -/
theorem Turn.stamps_sublist (turn : Turn) (now : Instant) : (turn.stamps now).Sublist [now] := by
  unfold Turn.stamps
  split
  · exact .refl _
  · exact .refl _
  · exact .refl _
  · exact List.nil_sublist _

/-- Turns that say the same, and change things alike. -/
inductive Turn.Alike (names : Names) : Turn → Turn → Prop where
  | tells (text : String) : Alike names (.tells text) (.tells text)
  | fails (error : RobotError) : Alike names (.fails error) (.fails error)
  | writes {change change' : Change} {texts texts' : Board → List String}
      (changes : change.Alike names change')
      (same : ∀ more after after', names.Within more → Board.Alike more Eq after after' →
        texts after = texts' after') : Alike names (.writes change texts) (.writes change' texts')

/-- Alike turns insert rows at the same times. -/
theorem Turn.Alike.stamps_eq {names : Names} {turn turn' : Turn} (alike : turn.Alike names turn')
    (now : Instant) : turn.stamps now = turn'.stamps now := by
  cases alike with
  | tells text => rfl
  | fails error => rfl
  | writes changes same => cases changes <;> rfl

namespace PokerRobot

section Texts

variable {names : Names}

theorem revealListing_eq {story story' : Story} (alike : story.Alike names Eq story')
    {votes votes' : List Vote} (cast : List.Forall₂ (Vote.Alike names Eq) votes votes') :
    revealListing story votes = revealListing story' votes' := by
  rw [revealListing, revealListing, alike.title]
  refine congrArg (_ ++ String.join ·) (map_eq_of_alike cast ?_)
  intro vote vote' related
  rw [related.user, related.value]

theorem announcement_eq {story story' : Story} (alike : story.Alike names Eq story')
    {votes votes' : List Vote} (cast : List.Forall₂ (Vote.Alike names Eq) votes votes')
    (roster : Roster) :
    announcement story (.ofVotes roster votes) = announcement story' (.ofVotes roster votes') := by
  unfold RosterCheck.ofVotes
  rw [users_eq_of_alike cast]
  split
  · rfl
  · split
    · rw [announcement, announcement, revealListing_eq alike cast]
    · rfl

theorem blockedText_eq {story story' : Story} (alike : story.Alike names Eq story') :
    storyStartText (.blocked story) = storyStartText (.blocked story') :=
  congrArg ("Cannot start a new story until you estimate *" ++ · ++ "*") alike.title

theorem hoursLabel_eq {story story' : Story} (alike : story.Alike names Eq story') :
    hoursLabel story = hoursLabel story' := by
  have hours := alike.estimation
  unfold hoursLabel
  generalize story.estimation = estimation at hours ⊢
  generalize story'.estimation = estimation' at hours ⊢
  cases hours with
  | none => rfl
  | some same => rw [same]

theorem summary_eq {session session' : Session} (alike : session.Alike names session')
    {stories stories' : List Story}
    (listed : List.Forall₂ (Story.Alike names Eq) stories stories') :
    summary session stories = summary session' stories' := by
  have lines : (stories.map fun story =>
        "\n*" ++ story.title ++ "* - Hours: " ++ hoursLabel story) =
      stories'.map fun story => "\n*" ++ story.title ++ "* - Hours: " ++ hoursLabel story := by
    apply map_eq_of_alike listed
    intro story story' related
    rw [related.title, hoursLabel_eq related]
  have empty : stories.isEmpty = stories'.isEmpty := by
    cases listed with
    | nil => rfl
    | cons _ _ => rfl
  unfold summary
  rw [alike.title, lines, empty]

theorem voters_eq {current current' : CurrentStory} (alike : current.Alike names Eq current') :
    current.voters = current'.voters := by
  have collected : ∀ votes : List Vote, (CurrentStory.mk current.story votes).voters =
      (votes.map (·.user)).foldl (fun seen user => if seen.contains user then seen else
        seen ++ [user]) [] := by
    intro votes
    rw [List.foldl_map]
    rfl
  exact (collected current.votes).trans
    (users_eq_of_alike alike.votes ▸ (collected current'.votes).symm)

theorem currentLines_eq {current current' : Option CurrentStory}
    (alike : Option.Rel (CurrentStory.Alike names Eq) current current') :
    currentLines current = currentLines current' := by
  cases alike with
  | none => rfl
  | some related =>
      simp only [currentLines, voters_eq related, related.story.title]

theorem statusText_eq {status status' : SessionStatus} (alike : status.Alike names Eq status') :
    statusText status = statusText status' := by
  unfold statusText
  rw [alike.session.title, alike.estimatedCount, currentLines_eq alike.current]

theorem statusReply_eq (payload : Payload) {status status' : Option SessionStatus}
    (alike : Option.Rel (SessionStatus.Alike names Eq) status status') :
    statusReply payload status = statusReply payload status' := by
  cases alike with
  | none => rfl
  | some related => exact statusText_eq related

end Texts

section Turns

variable {names : Names} {part part' : Board} {payload : Payload}

theorem ofSession_alike (alike : Board.Alike names Eq part part') {use use' : Session → Turn}
    (uses : ∀ session session', session.Alike names session' →
      (use session).Alike names (use' session')) :
    (ofSession part payload use).Alike names (ofSession part' payload use') := by
  have current := alike.currentSession payload.channelName
  unfold ofSession
  generalize part.currentSession payload.channelName = session at current ⊢
  generalize part'.currentSession payload.channelName = session' at current ⊢
  cases current with
  | none => exact .tells _
  | some related => exact uses _ _ related

theorem ofStory_alike (alike : Board.Alike names Eq part part') {use use' : Session → Story → Turn}
    (uses : ∀ session session' story story', session.Alike names session' →
      story.Alike names Eq story' → (use session story).Alike names (use' session' story')) :
    (ofStory part payload use).Alike names (ofStory part' payload use') := by
  apply ofSession_alike alike
  intro session session' related
  have current := alike.currentStory related.id
  generalize part.currentStory session.id = story at current ⊢
  generalize part'.currentStory session'.id = story' at current ⊢
  cases current with
  | none => exact .tells _
  | some pending => exact uses _ _ _ _ related pending

theorem ofArgs_alike {command : Command} {required : List String} {use use' : List String → Turn}
    (uses : ∀ args, (use args).Alike names (use' args)) :
    (ofArgs command required use).Alike names (ofArgs command required use') := by
  unfold ofArgs
  split
  · exact uses _
  · exact .fails _

theorem ofNumber_alike {field text : String} {use use' : Number → Turn}
    (uses : ∀ number, (use number).Alike names (use' number)) :
    (ofNumber field text use).Alike names (ofNumber field text use') := by
  unfold ofNumber
  split
  · exact uses _
  · exact .fails _

/-- Every action comes to the same on parts that are alike. -/
theorem turn_alike (alike : Board.Alike names Eq part part') (command : Command)
    (action : PokerAction) :
    (turn part payload command action).Alike names (turn part' payload command action) := by
  cases action with
  | status =>
      have replied := statusReply_eq payload (alike.status payload.channelName)
      simp only [turn, replied]
      exact .tells _
  | startSession =>
      by_cases untitled : command.strFrom 0 = ""
      · simp only [turn, if_pos untitled]
        exact .tells _
      · simp only [turn, if_neg untitled]
        exact .writes (.session _ _ _) fun _ _ _ _ _ => rfl
  | startStory =>
      apply ofSession_alike alike
      intro session session' related
      by_cases untitled : command.strFrom 0 = ""
      · simp only [if_pos untitled]
        exact .tells _
      · simp only [if_neg untitled]
        have current := alike.currentStory related.id
        generalize part.currentStory session.id = pending at current ⊢
        generalize part'.currentStory session'.id = pending' at current ⊢
        cases current with
        | none => exact .writes (.story related.id _) fun _ _ _ _ _ => rfl
        | some waits =>
            simp only [blockedText_eq waits]
            exact .tells _
  | vote =>
      apply ofStory_alike alike
      intro session session' story story' related voted
      apply ofArgs_alike
      intro args
      apply ofNumber_alike
      intro number
      refine .writes (.vote voted.id _ _) ?_
      intro more after after' within boards
      have named := voted.mono within
      rw [related.roster, announcement_eq named (boards.votesOn named.id)]
  | reveal =>
      apply ofStory_alike alike
      intro session session' story story' related voted
      rw [revealListing_eq voted (alike.votesOn voted.id)]
      exact .tells _
  | estimate =>
      apply ofStory_alike alike
      intro session session' story story' related voted
      apply ofArgs_alike
      intro args
      apply ofNumber_alike
      intro number
      refine .writes (.estimate voted.id _) ?_
      intro _ _ _ _ _
      rw [voted.title]
  | finish =>
      apply ofSession_alike alike
      intro session session' related
      refine .writes (.finish related.id) ?_
      intro more after after' within boards
      have named := related.mono within
      rw [summary_eq named (boards.storiesOf named.id)]

/-- Every payload comes to the same on parts that are alike. -/
theorem answer_alike (alike : Board.Alike names Eq part part') (payload : Payload)
    (messenger : Messenger) :
    (answer part payload messenger).Alike names (answer part' payload messenger) := by
  unfold answer
  by_cases blank : (Command.parse payload.text).isDefault = true
  · simp only [blank, if_true]
    exact .tells _
  · simp only [blank]
    by_cases help : (Command.parse payload.text).verb = "help"
    · simp only [help, if_true]
      exact .tells _
    · simp only [help, if_false]
      cases (router messenger).verbs.find? (Command.parse payload.text).verb with
      | none => exact .tells _
      | some action => exact turn_alike alike _ _

end Turns

section About

variable {board part : Board} {payload : Payload} {holds : Change → Prop}

theorem changes_ofSession {use : Session → Turn}
    (uses : ∀ session, session.id ∈ part.sessionIds → (use session).Changes holds) :
    (ofSession part payload use).Changes holds := by
  unfold ofSession
  cases current : part.currentSession payload.channelName with
  | none => trivial
  | some session =>
      exact uses session
        (List.mem_map_of_mem (List.mem_of_mem_filter (List.mem_of_getLast? current)))

theorem changes_ofStory {use : Session → Story → Turn}
    (uses : ∀ session story, story.id ∈ part.storyIds → (use session story).Changes holds) :
    (ofStory part payload use).Changes holds := by
  apply changes_ofSession
  intro session _
  cases current : part.currentStory session.id with
  | none => trivial
  | some story =>
      exact uses session story
        (List.mem_map_of_mem (List.mem_of_mem_filter (List.mem_of_getLast? current)))

theorem changes_ofArgs {command : Command} {required : List String} {use : List String → Turn}
    (uses : ∀ args, (use args).Changes holds) : (ofArgs command required use).Changes holds := by
  unfold ofArgs
  split
  · exact uses _
  · trivial

theorem changes_ofNumber {field text : String} {use : Number → Turn}
    (uses : ∀ number, (use number).Changes holds) : (ofNumber field text use).Changes holds := by
  unfold ofNumber
  split
  · exact uses _
  · trivial

/-- An action changes nothing outside of the channel. -/
theorem turn_about (command : Command) (action : PokerAction) :
    (turn (board.within payload.channelName) payload command action).Changes
      (·.About payload.channelName board) := by
  cases action with
  | status => trivial
  | startSession =>
      by_cases untitled : command.strFrom 0 = ""
      · simp only [turn, if_pos untitled]
        trivial
      · simp only [turn, if_neg untitled]
        exact rfl
  | startStory =>
      apply changes_ofSession
      intro session known
      by_cases untitled : command.strFrom 0 = ""
      · simp only [if_pos untitled]
        trivial
      · simp only [if_neg untitled]
        cases (board.within payload.channelName).currentStory session.id with
        | none => exact known
        | some pending => trivial
  | vote =>
      exact changes_ofStory fun _ _ known => changes_ofArgs fun _ => changes_ofNumber fun _ => known
  | reveal => exact changes_ofStory fun _ _ _ => trivial
  | estimate =>
      exact changes_ofStory fun _ _ known => changes_ofArgs fun _ => changes_ofNumber fun _ => known
  | finish => exact changes_ofSession fun _ known => known

/-- An action starts a story only where none waits. -/
theorem turn_free (command : Command) (action : PokerAction) :
    (turn (board.within payload.channelName) payload command action).Changes fun change =>
      ∀ sessionId title, change = .story sessionId title →
        board.currentStory sessionId = none := by
  cases action with
  | status => trivial
  | startSession =>
      by_cases untitled : command.strFrom 0 = ""
      · simp only [turn, if_pos untitled]
        trivial
      · simp only [turn, if_neg untitled]
        exact fun _ _ other => nomatch other
  | startStory =>
      apply changes_ofSession
      intro session known
      by_cases untitled : command.strFrom 0 = ""
      · simp only [if_pos untitled]
        trivial
      · simp only [if_neg untitled, Board.currentStory_within known]
        cases free : board.currentStory session.id with
        | none =>
            rintro sessionId title ⟨⟩
            exact free
        | some pending => trivial
  | vote =>
      exact changes_ofStory fun _ _ _ => changes_ofArgs fun _ => changes_ofNumber
        fun _ _ _ other => nomatch other
  | reveal => exact changes_ofStory fun _ _ _ => trivial
  | estimate =>
      exact changes_ofStory fun _ _ _ => changes_ofArgs fun _ => changes_ofNumber
        fun _ _ _ other => nomatch other
  | finish => exact changes_ofSession fun _ _ _ _ other => nomatch other

/-- What holds of the changes of all actions holds of the change that a payload comes to. -/
theorem changes_answer
    (actions : ∀ command action, (turn part payload command action).Changes holds)
    (messenger : Messenger) : (answer part payload messenger).Changes holds := by
  unfold answer
  by_cases blank : (Command.parse payload.text).isDefault = true
  · simp only [blank, if_true]
    trivial
  · simp only [blank]
    by_cases help : (Command.parse payload.text).verb = "help"
    · simp only [help, if_true]
      trivial
    · simp only [help, if_false]
      cases (router messenger).verbs.find? (Command.parse payload.text).verb with
      | none => trivial
      | some action => exact actions _ action

theorem answer_about (board : Board) (payload : Payload) (messenger : Messenger) :
    (answer (board.within payload.channelName) payload messenger).Changes
      (·.About payload.channelName board) :=
  changes_answer turn_about messenger

theorem answer_free (board : Board) (payload : Payload) (messenger : Messenger) :
    (answer (board.within payload.channelName) payload messenger).Changes fun change =>
      ∀ sessionId title, change = .story sessionId title → board.currentStory sessionId = none :=
  changes_answer turn_free messenger

end About

end PokerRobot

end ChatRobots
