/-
Module: ChatRobots.Proofs.Robot.PokerWork
Purpose: The poker robot settles with the store what to say before it says it.
Main exports: PokerAction.verbs, PokerRobot.action?_eq_some_iff, PokerRobot.work,
  PokerRobot.follows_handle, PokerRobot.answerBy, PokerRobot.answered_run_robot
-/
import Mathlib.Tactic.FinCases
import ChatRobots.Proofs.Robot.PokerTurn
import ChatRobots.Proofs.Robot.Scripts

namespace ChatRobots

open Poker

/-!
Every action of the poker robot is work on the store that ends with a reply, and then telling it.
This holds of any store in any state: nothing is assumed of what the calls answer, or of whether
they answer at all.
-/

/-- The verbs that ask for an action. -/
def PokerAction.verbs : PokerAction → List String
  | status => ["status"]
  | startSession => ["start", "session"]
  | startStory => ["story", "s"]
  | vote => ["vote", "v"]
  | reveal => ["reveal"]
  | estimate => ["estimate", "set", "track"]
  | finish => ["finish"]

namespace PokerRobot

section Verbs

theorem find?_router_eq_some_iff (messenger : Messenger) (verb : String) (action : PokerAction) :
    (router messenger).verbs.find? verb = some action ↔ verb ∈ action.verbs := by
  simp only [router, Router.registerMany, Router.register, Router.new, List.foldl_cons,
    List.foldl_nil, Dictionary.find?_put_eq_some_iff, Dictionary.find?_empty, reduceCtorEq,
    and_false, or_false]
  constructor
  · intro found
    -- The verb is the one that was registered last, or an earlier one.
    repeat' rcases found with ⟨rfl, rfl⟩ | ⟨-, found⟩
    all_goals (subst_vars; simp [PokerAction.verbs])
  · intro asked
    cases action <;> fin_cases asked <;> simp

/-- An action is asked for by its verbs. -/
theorem action?_eq_some_iff (messenger : Messenger) (command : Command) (action : PokerAction) :
    (router messenger).action? command = some action ↔ command.verb ∈ action.verbs := by
  have noDefault : (router messenger).defaultAction = none := rfl
  have noBlank : (router messenger).verbs.find? "" = none := rfl
  have noHelp : (router messenger).verbs.find? "help" = none := rfl
  rw [Router.action?_eq_find? noDefault noBlank noHelp, find?_router_eq_some_iff]

/-- A payload that asks for an action comes to what the action comes to. -/
theorem answer_of_action? {messenger : Messenger} {payload : Payload} {action : PokerAction}
    (asked : (router messenger).action? (.parse payload.text) = some action) (part : Board) :
    answer part payload messenger = turn part payload (.parse payload.text) action := by
  unfold Router.action? at asked
  unfold answer
  by_cases blank : (Command.parse payload.text).isDefault = true
  · rw [if_pos blank] at asked
    cases asked
  · by_cases help : (Command.parse payload.text).verb = "help"
    · rw [if_neg blank, if_pos help] at asked
      cases asked
    · rw [if_neg blank, if_neg help] at asked
      simp only [if_neg blank, if_neg help, asked]

end Verbs

section Work

variable {σ : Type} (store : Backend σ) (now : Instant) (payload : Payload)

/-- Go on with the current session; without one, the reply says how to start it. -/
def withSession (use : Session → Work σ Reply) : Work σ Reply := do
  match ← Work.call (Table.currentSession store payload.channelName) with
  | none => pure ⟨noSession payload, []⟩
  | some session => use session

/-- Go on with the current session and its current story. -/
def withStory (use : Session → Story → Work σ Reply) : Work σ Reply :=
  withSession store payload fun session => do
    match ← Work.call (Table.currentStory store session) with
    | none => pure ⟨noStory payload, []⟩
    | some story => use session story

/-- What an action does with the store, and the reply that comes out of it. -/
def work (action : PokerAction) (command : Command) : Work σ Reply :=
  match action with
  | .status => do
      let status ← Work.call (Table.status store payload.channelName)
      pure ⟨statusReply payload status, []⟩
  | .startSession => do
      let title := command.strFrom 0
      if title = "" then
        pure ⟨"You need to give the session a title: `/poker session <title>`", []⟩
      else do
        let session ← Work.call
          (Table.startSession store now payload.channelName title (command.param "users"))
        pure ⟨"Started poker session for *" ++ session.title ++ "*", []⟩
  | .startStory => withSession store payload fun session => do
      let title := command.strFrom 0
      if title = "" then
        pure ⟨"You need to give the story a title: `/poker story <title>`", []⟩
      else do
        let start ← Work.call (Table.startStory store now session title)
        pure ⟨storyStartText start, []⟩
  | .vote => withStory store payload fun session story => do
      let args ← Work.requireArgs command ["vote"]
      let receipt ← Work.call
        (Table.castVote store now session story payload.userName (args.headD ""))
      pure ⟨"Vote cast for *" ++ payload.userName ++ "*", announcement story receipt.roster⟩
  | .reveal => withStory store payload fun _ story => do
      let votes ← Work.call (Table.revealVotes store story)
      pure ⟨revealListing story votes, []⟩
  | .estimate => withStory store payload fun _ story => do
      let args ← Work.requireArgs command ["hours"]
      Work.call (Table.setEstimation store story (args.headD ""))
      pure ⟨"Tracked estimation of *" ++ args.headD "" ++ "* hours for *" ++ story.title ++ "*",
        []⟩
  | .finish => withSession store payload fun session => do
      Work.call (Table.finishSession store now session)
      let stories ← Work.call (Table.stories store session)
      pure ⟨summary session stories, []⟩

end Work

section Follows

variable {σ : Type} {store : Backend σ} {clock : Clock} {messenger : Messenger}
  {payload : Payload} {command : Command}

theorem follows_requireSession {use : Session → Work σ Reply}
    {next : Session → Handling σ Unit}
    (follows : ∀ session, messenger.Follows payload (use session) (next session)) :
    messenger.Follows payload (withSession store payload use)
      (do match ← requireSession store messenger payload with
          | none => pure ()
          | some session => next session) := by
  unfold requireSession withSession
  rw [bind_assoc]
  apply follows_callStore
  intro current
  cases current with
  | none =>
      simp only [bind_assoc, pure_bind, bind_pure_unit]
      exact follows_say (noSession payload)
  | some session =>
      rw [pure_bind]
      exact follows session

theorem follows_requireStory {use : Session → Story → Work σ Reply}
    {next : Session → Story → Handling σ Unit}
    (follows : ∀ session story,
      messenger.Follows payload (use session story) (next session story)) :
    messenger.Follows payload (withStory store payload use)
      (do match ← requireStory store messenger payload with
          | none => pure ()
          | some (session, story) => next session story) := by
  have required : (do
        match ← requireStory store messenger payload with
        | none => pure ()
        | some (session, story) => next session story) =
      (do
        match ← requireSession store messenger payload with
        | none => pure ()
        | some session =>
            match ← callStore (Table.currentStory store session) with
            | none => do
                messenger.say payload (noStory payload)
                pure ()
            | some story => next session story) := by
    rw [requireStory, bind_assoc]
    apply bind_congr
    intro current
    cases current with
    | none => rfl
    | some session =>
        simp only [bind_assoc]
        apply bind_congr
        intro pending
        cases pending with
        | none => simp only [bind_assoc, pure_bind]; rfl
        | some story => simp only [pure_bind]
  rw [required]
  apply follows_requireSession
  intro session
  apply follows_callStore
  intro pending
  cases pending with
  | none =>
      simp only [bind_pure_unit]
      exact follows_say (noStory payload)
  | some story => exact follows session story

/-- One text after a call of the store. -/
theorem follows_callStore_say {α : Type} {act : Act σ α} (text : α → String) :
    messenger.Follows payload
      (do
        let answer ← Work.call act
        pure ⟨text answer, []⟩)
      (do
        let answer ← callStore act
        messenger.say payload (text answer)) := by
  apply follows_callStore
  intro answer
  exact follows_say (text answer)

theorem follows_status :
    messenger.Follows payload (work store clock.now payload .status command)
      (status store messenger payload) := by
  apply follows_callStore
  intro status
  cases status with
  | none => exact follows_say _
  | some status => exact follows_say _

theorem follows_startSession :
    messenger.Follows payload (work store clock.now payload .startSession command)
      (startSession store clock messenger payload command) := by
  unfold work startSession
  by_cases untitled : command.strFrom 0 = ""
  · simp only [if_pos untitled]
    exact follows_say _
  · simp only [if_neg untitled]
    exact follows_callStore_say _

theorem follows_startStory :
    messenger.Follows payload (work store clock.now payload .startStory command)
      (startStory store clock messenger payload command) := by
  apply follows_requireSession
  intro session
  by_cases untitled : command.strFrom 0 = ""
  · simp only [if_pos untitled]
    exact follows_say _
  · simp only [if_neg untitled]
    exact follows_callStore_say _

/-- An announcement is said text by text. -/
theorem announce_eq (story : Story) (check : RosterCheck) :
    (announce messenger payload story check : Handling σ Unit) =
      messenger.sayAll payload (announcement story check) := by
  cases check with
  | untracked => rfl
  | waiting outstanding => rfl
  | complete votes =>
      have last : (messenger.sayAll payload [revealListing story votes] : Handling σ Unit) =
          messenger.say payload (revealListing story votes) := bind_pure _
      rw [announcement, Messenger.sayAll, last]
      rfl

theorem follows_vote :
    messenger.Follows payload (work store clock.now payload .vote command)
      (vote store clock messenger payload command) := by
  apply follows_requireStory
  intro session story
  apply follows_requireArgs
  intro args
  apply follows_callStore
  intro receipt
  rw [announce_eq]
  exact follows_tell ⟨_, announcement story receipt.roster⟩

theorem follows_reveal :
    messenger.Follows payload (work store clock.now payload .reveal command)
      (reveal store messenger payload) := by
  apply follows_requireStory
  intro _ story
  exact follows_callStore_say _

theorem follows_estimate :
    messenger.Follows payload (work store clock.now payload .estimate command)
      (estimate store messenger payload command) := by
  apply follows_requireStory
  intro _ story
  apply follows_requireArgs
  intro args
  exact follows_callStore_say _

theorem follows_finish :
    messenger.Follows payload (work store clock.now payload .finish command)
      (finish store clock messenger payload) := by
  apply follows_requireSession
  intro session
  apply follows_callStore
  intro _
  exact follows_callStore_say _

/-- Every action settles with the store what to say before it says it. -/
theorem follows_handle (action : PokerAction) :
    messenger.Follows payload (work store clock.now payload action command)
      (handle store clock messenger action payload command) := by
  cases action with
  | status => exact follows_status
  | startSession => exact follows_startSession
  | startStory => exact follows_startStory
  | vote => exact follows_vote
  | reveal => exact follows_reveal
  | estimate => exact follows_estimate
  | finish => exact follows_finish

end Follows

section Yields

variable {σ : Type} {store : Backend σ} {payload : Payload} {holds : Reply → Prop}

theorem yields_withSession {use : Session → Work σ Reply}
    (guided : holds ⟨noSession payload, []⟩) (uses : ∀ session, (use session).Yields holds) :
    (withSession store payload use).Yields holds := by
  apply Work.yields_bind
  intro current
  cases current with
  | none => exact Work.yields_pure guided
  | some session => exact uses session

theorem yields_withStory {use : Session → Story → Work σ Reply}
    (unopened : holds ⟨noSession payload, []⟩) (unstarted : holds ⟨noStory payload, []⟩)
    (uses : ∀ session story, (use session story).Yields holds) :
    (withStory store payload use).Yields holds := by
  apply yields_withSession unopened
  intro session
  apply Work.yields_bind
  intro current
  cases current with
  | none => exact Work.yields_pure unstarted
  | some story => exact uses session story

end Yields

section Ends

variable {σ : Type} {store : Backend σ} {payload : Payload} {before after : σ} {reply : Reply}

/-- Work with the current session that has come to a reply: there was none, or there was one and
the reply is about it. -/
theorem withSession_eq_ok {use : Session → Work σ Reply}
    (done : withSession store payload use before = (.ok reply, after)) :
    Table.currentSession store payload.channelName before = (.ok none, after) ∧
        reply = ⟨noSession payload, []⟩ ∨
      ∃ session between,
        Table.currentSession store payload.channelName before = (.ok (some session), between) ∧
          use session between = (.ok reply, after) := by
  obtain ⟨current, between, asked, done⟩ := run_bind_eq_ok done
  have asked := Work.call_eq_ok asked
  cases current with
  | none =>
      cases done
      exact .inl ⟨asked, rfl⟩
  | some session => exact .inr ⟨session, between, asked, done⟩

/-- Work with the current story that has come to a reply. -/
theorem withStory_eq_ok {use : Session → Story → Work σ Reply}
    (done : withStory store payload use before = (.ok reply, after)) :
    Table.currentSession store payload.channelName before = (.ok none, after) ∧
        reply = ⟨noSession payload, []⟩ ∨
      (∃ session between,
        Table.currentSession store payload.channelName before = (.ok (some session), between) ∧
          Table.currentStory store session between = (.ok none, after) ∧
            reply = ⟨noStory payload, []⟩) ∨
      ∃ session story between later,
        Table.currentSession store payload.channelName before = (.ok (some session), between) ∧
          Table.currentStory store session between = (.ok (some story), later) ∧
            use session story later = (.ok reply, after) := by
  rcases withSession_eq_ok done with noSession | ⟨session, between, asked, done⟩
  · exact .inl noSession
  · obtain ⟨pending, later, searched, done⟩ := run_bind_eq_ok done
    have searched := Work.call_eq_ok searched
    cases pending with
    | none =>
        cases done
        exact .inr (.inl ⟨session, between, asked, searched, rfl⟩)
    | some story => exact .inr (.inr ⟨session, story, between, later, asked, searched, done⟩)

end Ends

section Robot

variable {σ : Type} (store : Backend σ) (clock : Clock) (payload : Payload)
  (teamDomain : Option String)

/-- What the robot says in answer to a payload, and what becomes of the store. -/
def answerBy (stores : σ) : Reply × σ :=
  (router (messenger teamDomain)).answer (work store clock.now payload) (.parse payload.text)
    stores

/-- Every payload is answered, whatever the state of the store. -/
theorem answered_run_robot (scene : Scene σ) :
    (messenger teamDomain).Answered "poker" payload
      (answerBy store clock payload teamDomain scene.stores) scene
      ((robot store teamDomain).run clock payload scene).2 := by
  have follows : ∀ action command, (messenger teamDomain).Follows payload
      (work store clock.now payload action command)
      (handle store clock (messenger teamDomain) action payload command) :=
    fun action _ => follows_handle action
  exact (router (messenger teamDomain)).answered_dispatch follows payload.text scene

end Robot

end PokerRobot

end ChatRobots
