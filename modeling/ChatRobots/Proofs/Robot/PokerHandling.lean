/-
Module: ChatRobots.Proofs.Robot.PokerHandling
Purpose: Over any faithful store the poker robot does what the payload comes to.
Main exports: PokerRobot.Taken, PokerRobot.taken_handle, PokerRobot.Answered,
  PokerRobot.answered_robot
-/
import ChatRobots.Proofs.Poker.Faithful
import ChatRobots.Proofs.Robot.PokerTurn
import ChatRobots.Proofs.Robot.Scripts

namespace ChatRobots

open Poker

/-!
A handler is a sequence of calls of the store and of things said.  As long as messages are
delivered, running it over a faithful store takes the turn that is read off the board: it ends as
the turn says, delivers its texts as messages, and writes its change and nothing else.
-/

namespace PokerRobot

section Taken

variable {σ : Type} {store : Backend σ} (faithful : Faithful store) (messenger : Messenger)
  (payload : Payload) (now : Instant) (times : List Instant) (scene : Scene σ)

/-- The part of the board that belongs to the channel of the payload. -/
abbrev partOf (s : σ) : Board :=
  (faithful.board s).within payload.channelName

/-- What a handler has done when it has taken a turn: its end, and the scene after it. -/
inductive Taken : Turn → Except RobotError Unit × Scene σ → Prop where
  | tells (text : String) :
      Taken (.tells text) (.ok (), scene.heard [messenger.message payload text])
  | fails (error : RobotError) : Taken (.fails error) (.error error, scene)
  | writes {change : Change} {id : Int} {after : σ}
      (wrote : faithful.Wrote now times change id scene.stores after)
      (texts : Board → List String) :
      Taken (.writes change texts) (.ok (), ({ scene with stores := after }).heard
        ((texts (partOf faithful payload after)).map (messenger.message payload)))

end Taken

section Handlers

variable {σ : Type} {store : Backend σ} {faithful : Faithful store} {messenger : Messenger}
  {payload : Payload} {clock : Clock} {times : List Instant} {scene : Scene σ}

theorem run_requireSession_none (working : scene.refusal = none)
    (sound : faithful.Sound times scene.stores)
    (absent : (faithful.board scene.stores).currentSession payload.channelName = none) :
    requireSession store messenger payload scene =
      (.ok none, scene.heard [messenger.message payload (noSession payload)]) := by
  have asked : callStore (Table.currentSession store payload.channelName) scene =
      (.ok none, scene) :=
    absent ▸ run_callStore_of_ok (faithful.currentSession sound payload.channelName)
  rw [requireSession, run_bind_of_ok asked]
  exact run_bind_of_ok (run_say working messenger payload _)

theorem run_requireSession_some (sound : faithful.Sound times scene.stores) {session : Session}
    (current : (faithful.board scene.stores).currentSession payload.channelName = some session) :
    requireSession store messenger payload scene = (.ok (some session), scene) := by
  have asked : callStore (Table.currentSession store payload.channelName) scene =
      (.ok (some session), scene) :=
    current ▸ run_callStore_of_ok (faithful.currentSession sound payload.channelName)
  rw [requireSession, run_bind_of_ok asked]
  rfl

/-- Without a current session the handler says so; with one it goes on. -/
theorem taken_ofSession {use : Session → Turn} {next : Session → Handling σ Unit}
    (working : scene.refusal = none)
    (sound : faithful.Sound
      ((ofSession (partOf faithful payload scene.stores) payload use).stamps clock.now ++ times)
      scene.stores)
    (taken : ∀ session,
      (faithful.board scene.stores).currentSession payload.channelName = some session →
      faithful.Sound ((use session).stamps clock.now ++ times) scene.stores →
      Taken faithful messenger payload clock.now times scene (use session) (next session scene)) :
    Taken faithful messenger payload clock.now times scene
      (ofSession (partOf faithful payload scene.stores) payload use)
      ((do match ← requireSession store messenger payload with
          | none => pure ()
          | some session => next session) scene) := by
  unfold ofSession at sound ⊢
  rw [Board.currentSession_within] at sound ⊢
  cases current : (faithful.board scene.stores).currentSession payload.channelName with
  | none =>
      rw [run_bind_of_ok (run_requireSession_none working sound current)]
      exact .tells _
  | some session =>
      rw [current] at sound
      rw [run_bind_of_ok (run_requireSession_some sound current)]
      exact taken session current sound

/-- Without a current session or story the handler says so; with both it goes on. -/
theorem taken_ofStory {use : Session → Story → Turn} {next : Session → Story → Handling σ Unit}
    (working : scene.refusal = none)
    (sound : faithful.Sound
      ((ofStory (partOf faithful payload scene.stores) payload use).stamps clock.now ++ times)
      scene.stores)
    (taken : ∀ session story,
      session.id ∈ (partOf faithful payload scene.stores).sessionIds →
      (faithful.board scene.stores).currentStory session.id = some story →
      faithful.Sound ((use session story).stamps clock.now ++ times) scene.stores →
      Taken faithful messenger payload clock.now times scene (use session story)
        (next session story scene)) :
    Taken faithful messenger payload clock.now times scene
      (ofStory (partOf faithful payload scene.stores) payload use)
      ((do match ← requireStory store messenger payload with
          | none => pure ()
          | some (session, story) => next session story) scene) := by
  unfold ofStory ofSession at sound ⊢
  rw [Board.currentSession_within] at sound ⊢
  cases current : (faithful.board scene.stores).currentSession payload.channelName with
  | none =>
      have required : requireStory store messenger payload scene =
          (.ok none, scene.heard [messenger.message payload (noSession payload)]) := by
        rw [requireStory, run_bind_of_ok (run_requireSession_none working sound current)]
        rfl
      rw [run_bind_of_ok required]
      exact .tells _
  | some session =>
      have known := Board.session_mem_within current
      simp only [current, Board.currentStory_within known] at sound ⊢
      have asked : callStore (Table.currentStory store session) scene =
          (.ok ((faithful.board scene.stores).currentStory session.id), scene) :=
        run_callStore_of_ok (faithful.currentStory sound session.id)
      cases pending : (faithful.board scene.stores).currentStory session.id with
      | none =>
          rw [pending] at asked
          have required : requireStory store messenger payload scene =
              (.ok none, scene.heard [messenger.message payload (noStory payload)]) := by
            rw [requireStory, run_bind_of_ok (run_requireSession_some sound current)]
            exact (run_bind_of_ok asked).trans
              (run_bind_of_ok (run_say working messenger payload _))
          rw [run_bind_of_ok required]
          exact .tells _
      | some story =>
          rw [pending] at asked sound
          have required : requireStory store messenger payload scene =
              (.ok (some (session, story)), scene) := by
            rw [requireStory, run_bind_of_ok (run_requireSession_some sound current)]
            exact run_bind_of_ok asked
          rw [run_bind_of_ok required]
          exact taken session story known pending sound

/-- Missing arguments are a failure. -/
theorem taken_ofArgs {command : Command} {names : List String} {use : List String → Turn}
    {next : List String → Handling σ Unit}
    (sound : faithful.Sound ((ofArgs command names use).stamps clock.now ++ times) scene.stores)
    (taken : ∀ args, faithful.Sound ((use args).stamps clock.now ++ times) scene.stores →
      Taken faithful messenger payload clock.now times scene (use args) (next args scene)) :
    Taken faithful messenger payload clock.now times scene (ofArgs command names use)
      ((do
        let args ← requireArgs command names
        next args) scene) := by
  unfold ofArgs at sound ⊢
  unfold requireArgs
  cases given : command.requireArgs names with
  | error usage => exact .fails _
  | ok args =>
      rw [given] at sound
      exact taken args sound

/-- One thing said. -/
theorem taken_say (working : scene.refusal = none) (text : String) :
    Taken faithful messenger payload clock.now times scene (.tells text)
      (messenger.say payload text scene) := by
  rw [run_say working]
  exact .tells text

/-- One thing said after a change. -/
theorem taken_say_of_wrote (working : scene.refusal = none) {change : Change} {id : Int} {after : σ}
    (wrote : faithful.Wrote clock.now times change id scene.stores after) {text : String}
    {texts : Board → List String} (one : texts (partOf faithful payload after) = [text]) :
    Taken faithful messenger payload clock.now times scene (.writes change texts)
      (messenger.say payload text { scene with stores := after }) := by
  have still : ({ scene with stores := after } : Scene σ).refusal = none := working
  have taken : Taken faithful messenger payload clock.now times scene (.writes change texts) _ :=
    .writes wrote texts
  rw [one] at taken
  rw [run_say still]
  exact taken

theorem taken_status (working : scene.refusal = none) {command : Command}
    (sound : faithful.Sound ((turn (partOf faithful payload scene.stores) payload command
      .status).stamps clock.now ++ times) scene.stores) :
    Taken faithful messenger payload clock.now times scene
      (turn (partOf faithful payload scene.stores) payload command .status)
      (status store messenger payload scene) := by
  have asked : callStore (Table.status store payload.channelName) scene =
      (.ok ((faithful.board scene.stores).status payload.channelName), scene) :=
    run_callStore_of_ok (faithful.run_status sound payload.channelName)
  rw [turn, Board.status_within, status, run_bind_of_ok asked]
  cases (faithful.board scene.stores).status payload.channelName with
  | none => exact taken_say working _
  | some status => exact taken_say working _

theorem taken_startSession (working : scene.refusal = none) {command : Command}
    (sound : faithful.Sound ((turn (partOf faithful payload scene.stores) payload command
      .startSession).stamps clock.now ++ times) scene.stores) :
    Taken faithful messenger payload clock.now times scene
      (turn (partOf faithful payload scene.stores) payload command .startSession)
      (startSession store clock messenger payload command scene) := by
  unfold turn at sound ⊢
  unfold startSession
  by_cases untitled : command.strFrom 0 = ""
  · simp only [if_pos untitled]
    exact taken_say working _
  · simp only [if_neg untitled] at sound ⊢
    obtain ⟨id, after, started, wrote⟩ := faithful.startSession sound payload.channelName
      (command.strFrom 0) (command.param "users")
    rw [Table.startSession, run_bind_of_ok (run_callStore_of_ok started)]
    exact taken_say_of_wrote working wrote rfl

theorem taken_startStory (working : scene.refusal = none) {command : Command}
    (sound : faithful.Sound ((turn (partOf faithful payload scene.stores) payload command
      .startStory).stamps clock.now ++ times) scene.stores) :
    Taken faithful messenger payload clock.now times scene
      (turn (partOf faithful payload scene.stores) payload command .startStory)
      (startStory store clock messenger payload command scene) := by
  apply taken_ofSession working sound
  intro session current sound
  have known := Board.session_mem_within current
  by_cases untitled : command.strFrom 0 = ""
  · simp only [if_pos untitled]
    exact taken_say working _
  · simp only [if_neg untitled, Board.currentStory_within known] at sound ⊢
    cases pending : (faithful.board scene.stores).currentStory session.id with
    | some story =>
        have asked : callStore (Table.startStory store clock.now session (command.strFrom 0))
            scene = (.ok (.blocked story), scene) :=
          run_callStore_of_ok (faithful.run_startStory_of_pending sound pending _)
        rw [run_bind_of_ok asked]
        exact taken_say working _
    | none =>
        rw [pending] at sound
        obtain ⟨id, after, started, wrote⟩ := faithful.run_startStory sound
          (Board.session_mem_of_within known) pending (command.strFrom 0)
        rw [run_bind_of_ok (run_callStore_of_ok started)]
        exact taken_say_of_wrote working wrote rfl

theorem run_announce (working : scene.refusal = none) (story : Story) (check : RosterCheck) :
    announce messenger payload story check scene =
      (.ok (), scene.heard ((announcement story check).map (messenger.message payload))) := by
  cases check with
  | untracked => rw [announcement, List.map_nil, Scene.heard_nil]; rfl
  | waiting outstanding => rw [announcement, List.map_nil, Scene.heard_nil]; rfl
  | complete votes =>
      have still : (scene.heard [messenger.message payload
          "Everyone voted, revealing votes."]).refusal = none := working
      rw [announce, run_bind_of_ok (run_say working messenger payload _), run_say still,
        Scene.heard_heard]
      rfl

theorem taken_vote (working : scene.refusal = none) {command : Command}
    (sound : faithful.Sound ((turn (partOf faithful payload scene.stores) payload command
      .vote).stamps clock.now ++ times) scene.stores) :
    Taken faithful messenger payload clock.now times scene
      (turn (partOf faithful payload scene.stores) payload command .vote)
      (vote store clock messenger payload command scene) := by
  apply taken_ofStory working sound
  intro session story known pending sound
  apply taken_ofArgs sound
  intro args sound
  unfold ofNumber at sound ⊢
  cases parsed : parseNumber "vote" (args.headD "") with
  | error error =>
      rw [parsed] at sound
      have refused : Table.castVote store clock.now session story payload.userName
          (args.headD "") scene.stores = (.error error, scene.stores) :=
        faithful.run_castVote_error sound session story payload.userName parsed
      rw [run_bind_of_error (run_callStore_of_error refused)]
      exact .fails _
  | ok number =>
      rw [parsed] at sound
      have knownStory := Board.story_mem_within known pending
      obtain ⟨id, after, cast, wrote⟩ := faithful.run_castVote sound session
        (Board.story_mem_of_within knownStory) payload.userName parsed
      rw [run_bind_of_ok (run_callStore_of_ok cast)]
      have still : ({ scene with stores := after } : Scene σ).refusal = none := working
      have here : story.id ∈ (partOf faithful payload after).storyIds := by
        rw [partOf, wrote.board_eq]
        exact knownStory
      have after_vote : (({ scene with stores := after } : Scene σ).heard [messenger.message payload
          ("Vote cast for *" ++ payload.userName ++ "*")]).refusal = none := working
      rw [run_bind_of_ok (run_say still messenger payload _), run_announce after_vote,
        Scene.heard_heard, ← Board.votesOn_within here]
      exact .writes wrote _

theorem taken_reveal (working : scene.refusal = none) {command : Command}
    (sound : faithful.Sound ((turn (partOf faithful payload scene.stores) payload command
      .reveal).stamps clock.now ++ times) scene.stores) :
    Taken faithful messenger payload clock.now times scene
      (turn (partOf faithful payload scene.stores) payload command .reveal)
      (reveal store messenger payload scene) := by
  apply taken_ofStory working sound
  intro session story known pending sound
  have asked : callStore (Table.revealVotes store story) scene =
      (.ok ((faithful.board scene.stores).votesOn story.id), scene) :=
    run_callStore_of_ok (faithful.votesFor sound story.id)
  rw [run_bind_of_ok asked, Board.votesOn_within (Board.story_mem_within known pending)]
  exact taken_say working _

theorem taken_estimate (working : scene.refusal = none) {command : Command}
    (sound : faithful.Sound ((turn (partOf faithful payload scene.stores) payload command
      .estimate).stamps clock.now ++ times) scene.stores) :
    Taken faithful messenger payload clock.now times scene
      (turn (partOf faithful payload scene.stores) payload command .estimate)
      (estimate store messenger payload command scene) := by
  apply taken_ofStory working sound
  intro session story known pending sound
  apply taken_ofArgs sound
  intro args sound
  unfold ofNumber at sound ⊢
  cases parsed : parseNumber "estimation" (args.headD "") with
  | error error =>
      rw [parsed] at sound
      have refused := faithful.setEstimation_error sound story.id parsed
      rw [Table.setEstimation, run_bind_of_error (run_callStore_of_error refused)]
      exact .fails _
  | ok number =>
      rw [parsed] at sound
      obtain ⟨id, after, estimated, wrote⟩ :=
        faithful.setEstimation sound clock.now story.id parsed
      rw [Table.setEstimation, run_bind_of_ok (run_callStore_of_ok estimated)]
      exact taken_say_of_wrote working wrote rfl

theorem taken_finish (working : scene.refusal = none) {command : Command}
    (sound : faithful.Sound ((turn (partOf faithful payload scene.stores) payload command
      .finish).stamps clock.now ++ times) scene.stores) :
    Taken faithful messenger payload clock.now times scene
      (turn (partOf faithful payload scene.stores) payload command .finish)
      (finish store clock messenger payload scene) := by
  apply taken_ofSession working sound
  intro session current sound
  have known := Board.session_mem_within current
  obtain ⟨id, after, finished, wrote⟩ := faithful.finishSession sound clock.now session.id
  have asked : callStore (Table.stories store session) { scene with stores := after } =
      (.ok ((faithful.board after).storiesOf session.id), { scene with stores := after }) :=
    run_callStore_of_ok (faithful.storiesFor wrote.sound session.id)
  have here : session.id ∈ (partOf faithful payload after).sessionIds := by
    rw [partOf, wrote.board_eq, Board.apply, Board.within_finish, Board.sessionIds_finish]
    exact known
  rw [Table.finishSession, run_bind_of_ok (run_callStore_of_ok finished), run_bind_of_ok asked,
    ← Board.storiesOf_within here]
  exact taken_say_of_wrote working wrote rfl

/-- Every action takes its turn. -/
theorem taken_handle (working : scene.refusal = none) (action : PokerAction) {command : Command}
    (sound : faithful.Sound ((turn (partOf faithful payload scene.stores) payload command
      action).stamps clock.now ++ times) scene.stores) :
    Taken faithful messenger payload clock.now times scene
      (turn (partOf faithful payload scene.stores) payload command action)
      (handle store clock messenger action payload command scene) := by
  cases action with
  | status => exact taken_status working sound
  | startSession => exact taken_startSession working sound
  | startStory => exact taken_startStory working sound
  | vote => exact taken_vote working sound
  | reveal => exact taken_reveal working sound
  | estimate => exact taken_estimate working sound
  | finish => exact taken_finish working sound

end Handlers

section Robot

variable {σ : Type} {store : Backend σ} (faithful : Faithful store) {clock : Clock}
  {times : List Instant} {scene : Scene σ} {payload : Payload}

/-- What has become of the store after a turn. -/
def Stored (now : Instant) (times : List Instant) (before after : σ) : Turn → Prop
  | .writes change _ => ∃ id, faithful.Wrote now times change id before after
  | .tells _ | .fails _ => after = before ∧ faithful.Sound times before

/-- The robot has taken a turn: what it has said, and what has become of the store. -/
structure Answered (messenger : Messenger) (payload : Payload) (now : Instant)
    (times : List Instant) (turn : Turn) (before after : Scene σ) : Prop where
  working : after.refusal = none
  messages : after.messages = before.messages ++
    (turn.texts (partOf faithful payload after.stores)).map (messenger.message payload)
  stored : Stored faithful now times before.stores after.stores turn

variable {faithful}

/-- A text without an action. -/
theorem answered_reply (messenger : Messenger) (payload : Payload) (clock : Clock)
    (working : scene.refusal = none) (sound : faithful.Sound times scene.stores) (text : String) :
    Answered faithful messenger payload clock.now times (.tells text) scene
      ((router messenger).reply payload text scene).2 := by
  have replied : (router messenger).reply payload text scene =
      ((), scene.heard [messenger.message payload text]) := by
    obtain ⟨stores, refusal, trace⟩ := scene
    obtain rfl : refusal = none := working
    rfl
  rw [replied]
  exact ⟨working, Scene.messages_heard _ _, rfl, sound⟩

/-- An action; what fails is answered with the reason. -/
theorem answered_run {teamDomain : Option String} (working : scene.refusal = none)
    (action : PokerAction) (command : Command)
    (sound : faithful.Sound ((turn (partOf faithful payload scene.stores) payload command
      action).stamps clock.now ++ times) scene.stores) :
    Answered faithful (messenger teamDomain) payload clock.now times
      (turn (partOf faithful payload scene.stores) payload command action) scene
      ((router (messenger teamDomain)).run (handle store clock (messenger teamDomain)) action
        payload command scene).2 := by
  have dispatched :
      (scene.noted (.commandDispatched payload "poker" command.verb)).refusal = none := working
  have taken : Taken faithful (messenger teamDomain) payload clock.now times _
      (turn (partOf faithful payload scene.stores) payload command action)
      (handle store clock (messenger teamDomain) action payload command _) :=
    taken_handle dispatched action sound
  generalize turn (partOf faithful payload scene.stores) payload command action = taking
    at sound taken ⊢
  generalize ran : handle store clock (messenger teamDomain) action payload command _ = result
    at taken
  cases taken with
  | tells text =>
      have finished : ((router (messenger teamDomain)).run _ action payload command scene).2 = _ :=
        congrArg Prod.snd (Router.run_of_ok ran)
      rw [finished]
      refine ⟨working, ?_, rfl, sound⟩
      rw [Scene.messages_heard, Scene.messages_noted]
      rfl
  | fails error =>
      let failed := (scene.noted (.commandDispatched payload "poker" command.verb)).noted
        (.commandFailed payload "poker" error)
      have still : failed.refusal = none := working
      have unwritten : faithful.Sound times failed.stores := sound
      have unsaid : failed.messages = scene.messages := by simp [failed]
      have replied := answered_reply (messenger teamDomain) payload clock still unwritten
        ("Error running Poker command: " ++ error.message)
      have reported : ((router (messenger teamDomain)).run _ action payload command scene).2 = _ :=
        congrArg Prod.snd (Router.run_of_error ran)
      rw [reported]
      exact ⟨replied.working, unsaid ▸ replied.messages, replied.stored⟩
  | writes wrote texts =>
      have finished : ((router (messenger teamDomain)).run _ action payload command scene).2 = _ :=
        congrArg Prod.snd (Router.run_of_ok ran)
      rw [finished]
      refine ⟨working, ?_, _, wrote⟩
      rw [Scene.messages_heard]
      exact congrArg (· ++ _) (scene.messages_noted _)

/-- Every payload is answered, and what was asked about other channels makes no difference. -/
theorem answered_robot {teamDomain : Option String} (working : scene.refusal = none)
    (sound : faithful.Sound ((answer (partOf faithful payload scene.stores) payload
      (messenger teamDomain)).stamps clock.now ++ times) scene.stores) :
    Answered faithful (messenger teamDomain) payload clock.now times
      (answer (partOf faithful payload scene.stores) payload (messenger teamDomain)) scene
      ((robot store teamDomain).run clock payload scene).2 := by
  have ran : ((robot store teamDomain).run clock payload scene).2 =
      ((router (messenger teamDomain)).dispatch (handle store clock (messenger teamDomain))
        payload payload.text scene).2 := rfl
  rw [ran]
  unfold answer at sound ⊢
  unfold Router.dispatch
  by_cases blank : (Command.parse payload.text).isDefault = true
  · simp only [blank, if_true] at sound ⊢
    exact answered_reply _ payload clock working sound _
  · simp only [blank] at sound ⊢
    by_cases help : (Command.parse payload.text).verb = "help"
    · simp only [help, if_true] at sound ⊢
      exact answered_reply _ payload clock working sound _
    · simp only [help, if_false] at sound ⊢
      cases found : (router (messenger teamDomain)).verbs.find?
          (Command.parse payload.text).verb with
      | none =>
          rw [found] at sound
          exact answered_reply _ payload clock working sound _
      | some action =>
          rw [found] at sound
          exact answered_run working action _ sound

end Robot

end PokerRobot

end ChatRobots
