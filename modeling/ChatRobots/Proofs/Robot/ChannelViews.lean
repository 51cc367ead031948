/-
Module: ChatRobots.Proofs.Robot.ChannelViews
Purpose: What the chat and the server tell about a channel agrees.
Main exports: Robot.spoken, SessionStatus.TellsOf, Board.Exclusive.tellsOf,
  Http.Service.respond_session, Medium.crewStores, Medium.service, Medium.views_agree
-/
import ChatRobots.Http.Service
import ChatRobots.Proofs.Poker.Medium
import ChatRobots.Proofs.Poker.Parts
import ChatRobots.Proofs.Robot.ChannelIsolation
import ChatRobots.Proofs.Robot.CommandRuns
import ChatRobots.Proofs.Robot.SessionTexts
import ChatRobots.Proofs.Robot.TruthfulReplies

namespace ChatRobots

open Poker

/-!
A channel is looked at in three ways: its status is told in the chat, a snapshot of its session is
read from the server, and finishing its session lists the stories.  Each way asks the store other
questions, and the last one only after it has written.  They agree because the stories of a
session are the estimated ones and then the current one, in every state that commands lead to.
-/

/-- What the robot says to a payload when all of it is delivered. -/
def Robot.spoken {σ : Type} (robot : Robot σ) (clock : Clock) (payload : Payload) (stores : σ) :
    List String :=
  (robot.run clock payload { stores := stores }).2.messages.map (·.text)

/-- The payload comes from this channel and asks for this. -/
structure Payload.Asks (payload : Payload) (verb channel : String) : Prop where
  verb : (Command.parse payload.text).verb = verb
  here : payload.channelName = channel

namespace Poker

/-- A status and a snapshot are about one session, and count the same stories. -/
structure SessionStatus.TellsOf (status : SessionStatus) (snapshot : Snapshot) : Prop where
  session : status.session = snapshot.session
  estimated : status.estimatedCount = (snapshot.stories.filter (·.estimation.isSome)).length
  /-- The current story is the one without an estimation. -/
  current : (status.current.map (·.story)).toList = snapshot.stories.filter (·.estimation.isNone)
  current_eq_none_iff :
    status.current = none ↔ ∀ story ∈ snapshot.stories, story.estimation.isSome = true
  total : status.estimatedCount + status.current.toList.length = snapshot.stories.length

namespace Board

variable {board : Board} {channel : String}

/-- Where at most the newest story waits, it is the only one without an estimation. -/
theorem Exclusive.currentStory_toList (exclusive : board.Exclusive) (sessionId : Int) :
    (board.currentStory sessionId).toList =
      (board.storiesOf sessionId).filter (·.estimation.isNone) := by
  have estimated : (board.estimatedOf sessionId).filter (·.estimation.isNone) = [] := by
    apply List.filter_eq_nil_iff.2
    intro story member waits
    have given := isSome_estimation_of_mem member
    rw [Option.isNone_iff_eq_none.1 waits] at given
    cases given
  have waiting : (board.currentStory sessionId).toList.filter (·.estimation.isNone) =
      (board.currentStory sessionId).toList := by
    apply List.filter_eq_self.2
    intro story member
    exact isNone_estimation_of_currentStory (Option.mem_toList.1 member)
  rw [exclusive.storiesOf_eq, List.filter_append, estimated, waiting, List.nil_append]

/-- Without a current session there is neither a status nor a snapshot; with one they agree. -/
theorem Exclusive.tellsOf (exclusive : board.Exclusive) (channel : String) :
    board.status channel = none ∧ board.snapshot channel = none ∨
      ∃ status snapshot, board.status channel = some status ∧
        board.snapshot channel = some snapshot ∧ status.TellsOf snapshot := by
  cases current : board.currentSession channel with
  | none =>
      refine .inl ⟨?_, ?_⟩
      · rw [status, current, Option.map_none]
      · rw [snapshot, current, Option.map_none]
  | some session =>
      have pending := exclusive.currentStory_toList session.id
      have split := exclusive.storiesOf_eq session.id
      have told : board.status channel = some ⟨session, (board.estimatedOf session.id).length,
          (board.currentStory session.id).map fun story => ⟨story, board.votesOn story.id⟩⟩ := by
        rw [status, current, Option.map_some]
      have taken : board.snapshot channel = some ⟨session, board.storiesOf session.id⟩ := by
        rw [snapshot, current, Option.map_some]
      refine .inr ⟨_, _, told, taken, rfl, ?_, ?_, ?_, ?_⟩
      · rw [estimatedOf_eq_filter]
      · rw [← pending, Option.map_map]
        exact congrArg Option.toList Option.map_id'
      · rw [Option.map_eq_none_iff, ← Option.toList_eq_nil_iff, pending, List.filter_eq_nil_iff]
        simp only [Option.isNone_iff_eq_none, Option.isSome_iff_ne_none, ne_eq]
      · rw [split, List.length_append, Option.toList_map, List.length_map]

end Board

end Poker

namespace PokerRobot

section Told

variable {σ : Type} {store : Backend σ} {faithful : Faithful store} {times : List Instant} {s : σ}
  {payload : Payload}

/-- What is said when a session is to be finished. -/
def finishReply (payload : Payload) : Option Snapshot → String
  | none => noSession payload
  | some snapshot => summary snapshot.session snapshot.stories

/-- No status reads like the reply that there is no session. -/
theorem statusReply_eq_iff (payload : Payload) (told : Option SessionStatus) :
    statusReply payload told = "No active poker session on *" ++ payload.channelName ++ "*." ↔
      told = none := by
  cases told with
  | none => exact iff_of_true rfl rfl
  | some told =>
      refine iff_of_false ?_ nofun
      exact (begins_statusText told).ne (((begins_refl _).append _).append _)
        (by decide : ¬ Begins _ "No active poker session on *" ∧ _)

/-- No list of stories reads like the advice to start a session. -/
theorem finishReply_eq_iff {payload : Payload} {channel : String}
    (here : payload.channelName = channel) (snapshot : Option Snapshot) :
    finishReply payload snapshot = "No active poker session on *" ++ channel ++
      "*. Use `/poker session` to start a new session." ↔ snapshot = none := by
  subst here
  cases snapshot with
  | none => exact iff_of_true rfl rfl
  | some snapshot =>
      refine iff_of_false ?_ nofun
      exact (begins_summary snapshot.session snapshot.stories).ne (begins_noSession payload)
        (by decide)

/-- What is said is what the payload comes to. -/
theorem spoken_of_action? {action : PokerAction} (teamDomain : Option String) (clock : Clock)
    (asked : (Command.parse payload.text).verb ∈ action.verbs)
    (sound : faithful.Sound ((turn (partOf faithful payload s) payload (.parse payload.text)
      action).stamps clock.now ++ times) s) :
    ∃ after,
      Stored faithful clock.now times s after
          (turn (partOf faithful payload s) payload (.parse payload.text) action) ∧
        (robot store teamDomain).spoken clock payload s =
          (turn (partOf faithful payload s) payload (.parse payload.text) action).texts
            (partOf faithful payload after) := by
  have comes := answer_of_action?
    ((action?_eq_some_iff (messenger teamDomain) _ action).2 asked) (partOf faithful payload s)
  rw [← comes] at sound ⊢
  let delivering : Scene σ := { stores := s }
  have working : delivering.refusal = none := rfl
  have answered := answered_robot working sound
  refine ⟨_, answered.stored, ?_⟩
  have told : ((robot store teamDomain).run clock payload delivering).2.messages = _ :=
    answered.messages
  rw [Robot.spoken, told, List.map_append, List.map_map]
  exact List.map_id _

theorem spoken_status (sound : faithful.Sound times s) (teamDomain : Option String) (clock : Clock)
    (asked : (Command.parse payload.text).verb = "status") :
    (robot store teamDomain).spoken clock payload s =
      [statusReply payload ((faithful.board s).status payload.channelName)] := by
  have verb : (Command.parse payload.text).verb ∈ PokerAction.status.verbs :=
    List.mem_singleton.2 asked
  obtain ⟨after, -, said⟩ := spoken_of_action? teamDomain clock verb sound
  rw [said, turn, Board.status_within, Turn.texts]

/-- The stories are listed as they were before the session was finished. -/
theorem spoken_finish (sound : faithful.Sound times s) (teamDomain : Option String) (clock : Clock)
    (asked : (Command.parse payload.text).verb = "finish") :
    (robot store teamDomain).spoken clock payload s =
      [finishReply payload ((faithful.board s).snapshot payload.channelName)] := by
  have verb : (Command.parse payload.text).verb ∈ PokerAction.finish.verbs :=
    List.mem_singleton.2 asked
  have unstamped : (turn (partOf faithful payload s) payload (.parse payload.text)
      .finish).stamps clock.now = [] := by
    simp only [turn, ofSession]
    split <;> rfl
  obtain ⟨after, stored, said⟩ := spoken_of_action? teamDomain clock verb
    (unstamped.symm ▸ sound : faithful.Sound (_ ++ times) s)
  rw [said]
  unfold turn ofSession at stored ⊢
  rw [Board.currentSession_within] at stored ⊢
  cases current : (faithful.board s).currentSession payload.channelName with
  | none => rw [Board.snapshot, current]; rfl
  | some session =>
      rw [current] at stored
      obtain ⟨id, wrote⟩ := stored
      have known := Board.session_mem_within current
      have here : session.id ∈ (partOf faithful payload after).sessionIds := by
        rw [partOf, wrote.board_eq, Board.apply, Board.within_finish, Board.sessionIds_finish]
        exact known
      have listed : (partOf faithful payload after).storiesOf session.id =
          (faithful.board s).storiesOf session.id := by
        rw [Board.storiesOf_within here, wrote.board_eq]
        rfl
      rw [Board.snapshot, current]
      exact congrArg (fun stories => [summary session stories]) listed

end Told

end PokerRobot

namespace Http.Service

/-- The request asks for the session of a channel. -/
structure AsksForSession (request : Request) (channel : String) : Prop where
  method : request.method = "GET"
  path : request.path = "/poker/session"
  query : channelOf request.query = .ok channel

/-- The response with the session of a channel, or that there is none. -/
def sessionResponse (channel : String) : Option Snapshot → Response
  | some snapshot => .data 200 snapshot.toJson
  | none => .data 404 (errorBody ("no current session for channel " ++ channel))

theorem status_sessionResponse_eq_iff (channel : String) (snapshot : Option Snapshot) :
    (sessionResponse channel snapshot).status = 404 ↔ snapshot = none := by
  cases snapshot with
  | none => exact iff_of_true rfl rfl
  | some snapshot => exact iff_of_false (by decide : 200 ≠ 404) nofun

/-- The session of a channel is the snapshot, or there is none to be found. -/
theorem respond_session {σ : Type} (service : Service σ) {faithful : Faithful service.poker}
    {times : List Instant} {stores : σ} (sound : faithful.Sound times stores) {request : Request}
    {channel : String} (asks : AsksForSession request channel) (now : Instant)
    (correlationId : String) :
    (service.respond now correlationId request { stores := stores }).1.response =
      sessionResponse channel ((faithful.board stores).snapshot channel) := by
  have routed : service.respond now correlationId request = service.pokerSession request := by
    simp only [respond, asks.path, reading, asks.method, if_true]
  have taken := faithful.run_snapshot sound channel
  have read : (get : Chat σ (Scene σ)) { stores := stores } =
      ({ stores := stores }, { stores := stores }) := rfl
  rw [routed, pokerSession, asks.query]
  dsimp only
  rw [run_bind_state read, taken]
  cases (faithful.board stores).snapshot channel with
  | none => rfl
  | some snapshot => rfl

end Http.Service

namespace Poker.Medium

/-- The stores of the three robots over this medium. -/
abbrev CrewState : Medium → Type
  | memory => MemoryStores
  | database => Database

def crewStores : (medium : Medium) → Stores medium.CrewState
  | memory => .inMemory
  | database => .inDatabase

/-- The stores before anything was written to them. -/
def crewEmpty : (medium : Medium) → medium.CrewState
  | memory => ({} : MemoryStores)
  | database => ({} : Database)

/-- The server over these stores. -/
def service (tokens : Dictionary String) (teamDomain : Option String) :
    (medium : Medium) → Http.Service medium.CrewState
  | memory => .inMemory tokens teamDomain
  | database => .overDatabase tokens teamDomain

/-- The poker store among the three shows what it shows alone. -/
def crewFaithful : (medium : Medium) → Faithful medium.crewStores.poker
  | memory => Memory.faithful.within (fun _ _ => rfl) fun _ => rfl
  | database => Database.pokerFaithful

theorem inOrder_crewEmpty {medium : Medium} {times : List Instant}
    (admits : medium.Admits times) :
    PokerRobot.InOrder medium.crewFaithful times medium.crewEmpty := by
  cases medium with
  | memory =>
      exact ⟨Memory.healthy_empty, Round.consistent_empty.wellFormed,
        Round.consistent_empty.exclusive⟩
  | database =>
      exact ⟨Database.pokerSound_empty admits, Round.consistent_empty.wellFormed,
        Round.consistent_empty.exclusive⟩

theorem inOrder_of_led {medium : Medium} {times : List Instant} {stores : medium.CrewState}
    (led : PokerRobot.Led medium.crewFaithful medium.crewEmpty times stores)
    (admits : medium.Admits times) : PokerRobot.InOrder medium.crewFaithful [] stores :=
  led.inOrder ((List.append_nil times).symm ▸ inOrder_crewEmpty admits :
    PokerRobot.InOrder medium.crewFaithful (times ++ []) medium.crewEmpty)

/-- The server tells what the board shows. -/
theorem respond_crew {medium : Medium} {times : List Instant} {stores : medium.CrewState}
    (sound : medium.crewFaithful.Sound times stores) (tokens : Dictionary String)
    (teamDomain : Option String) {request : Http.Request} {channel : String}
    (asks : Http.Service.AsksForSession request channel) (now : Instant) (correlationId : String) :
    ((medium.service tokens teamDomain).respond now correlationId request
        { stores := stores }).1.response =
      Http.Service.sessionResponse channel
        ((medium.crewFaithful.board stores).snapshot channel) := by
  cases medium with
  | memory =>
      exact Http.Service.respond_session (.inMemory tokens teamDomain) sound asks now
        correlationId
  | database =>
      exact Http.Service.respond_session (.overDatabase tokens teamDomain) sound asks now
        correlationId

/-- In every state that commands lead to, the status of a channel, the snapshot that the server
has of it, and the list that finishing its session would give agree: either none of them knows of a
session, or all of them tell of the same stories, the list with all of them in their order. -/
theorem views_agree {medium : Medium} {times : List Instant} {stores : medium.CrewState}
    (led : PokerRobot.Led medium.crewFaithful medium.crewEmpty times stores)
    (admits : medium.Admits times) {asking finishing : Payload} {request : Http.Request}
    {channel : String} (asked : asking.Asks "status" channel)
    (finished : finishing.Asks "finish" channel)
    (requested : Http.Service.AsksForSession request channel) (tokens : Dictionary String)
    (teamDomain : Option String) (clock clock' : Clock) (now : Instant) (correlationId : String) :
    let robot := PokerRobot.robot medium.crewStores.poker teamDomain
    let response := ((medium.service tokens teamDomain).respond now correlationId request
      { stores := stores }).1.response
    ∃ status summary, robot.spoken clock asking stores = [status] ∧
      robot.spoken clock' finishing stores = [summary] ∧
      (status = "No active poker session on *" ++ channel ++ "*." ↔ response.status = 404) ∧
      (response.status = 404 ↔ summary = "No active poker session on *" ++ channel ++
        "*. Use `/poker session` to start a new session.") ∧
      (response.status ≠ 404 → ∃ (told : SessionStatus) (snapshot : Snapshot) (data : Json),
        PokerRobot.SaysStatus told status ∧ response = .data 200 data ∧ data.Shows snapshot ∧
          told.TellsOf snapshot ∧
          PokerRobot.SaysFinished snapshot.session snapshot.stories summary) := by
  obtain ⟨asked, rfl⟩ := asked
  obtain ⟨finished, here⟩ := finished
  intro robot response
  have inOrder := inOrder_of_led led admits
  have responded : response = _ :=
    respond_crew inOrder.sound tokens teamDomain requested now correlationId
  refine ⟨_, _, PokerRobot.spoken_status inOrder.sound teamDomain clock asked,
    PokerRobot.spoken_finish inOrder.sound teamDomain clock' finished, ?_⟩
  rw [responded, Http.Service.status_sessionResponse_eq_iff, PokerRobot.statusReply_eq_iff,
    PokerRobot.finishReply_eq_iff here, here]
  rcases inOrder.exclusive.tellsOf asking.channelName with
    ⟨noStatus, noSnapshot⟩ | ⟨told, snapshot, some_told, some_snapshot, tells⟩
  · rw [noStatus, noSnapshot]
    exact ⟨iff_of_true rfl rfl, .rfl, fun found => absurd rfl found⟩
  · rw [some_told, some_snapshot]
    exact ⟨iff_of_false nofun nofun, .rfl, fun _ => ⟨told, snapshot, snapshot.toJson,
      PokerRobot.saysStatus_statusText told, rfl, snapshot.shows_toJson, tells,
      PokerRobot.saysFinished_summary snapshot.session snapshot.stories⟩⟩

/-- One story is estimated, and another one waits. -/
def planning : List (Clock × Payload) :=
  [ask "eng" "ann" "session Sprint", ask "eng" "ann" "story Login",
    ask "eng" "bob" "estimate 3", ask "eng" "bob" "story Logout"]

/-- The status as it is told after this. -/
def planningStatus : String :=
  "We are playing a poker planning session called *Sprint*\n" ++
    "We have estimated 1 story so far.\n" ++
    "We are estimating the story *Logout*\nNo one voted yet"

/-- What the server writes of the session. -/
def planningData : String :=
  "\x7b\"session\":\x7b\"id\":1,\"channel\":\"eng\",\"title\":\"Sprint\",\"roster\":[]," ++
    "\"created_at\":\"2026-07-04T12:00:00Z\",\"finished_at\":null\x7d,\"stories\":[" ++
    "\x7b\"id\":1,\"session_id\":1,\"title\":\"Login\",\"estimation\":3.0," ++
      "\"created_at\":\"2026-07-04T12:00:00Z\"\x7d," ++
    "\x7b\"id\":2,\"session_id\":1,\"title\":\"Logout\",\"estimation\":null," ++
      "\"created_at\":\"2026-07-04T12:00:00Z\"\x7d]\x7d"

/-- The list when the session is finished. -/
def planningSummary : String :=
  "Finished poker session for *Sprint*.\n\nThe following stories were estimated:" ++
    "\n*Login* - Hours: 3.00\n*Logout* - Hours: not estimated"

/-- Of these two stories the three views of the channel tell the same. -/
theorem views_of_planning :
    let robot := PokerRobot.robot database.crewStores.poker none
    let stores := robot.storesAfter planning database.crewEmpty
    let response := ((database.service .empty none).respond noon "id"
      ⟨"GET", "/poker/session", "channel=eng", none, []⟩ { stores := stores }).1.response
    robot.spoken ⟨noon, noon.date⟩ (ask "eng" "cleo" "status").2 stores = [planningStatus] ∧
      response.body.render = planningData ∧
      robot.spoken ⟨noon, noon.date⟩ (ask "eng" "cleo" "finish").2 stores = [planningSummary] ∧
      ∃ (told : SessionStatus) (snapshot : Snapshot) (data : Json),
        PokerRobot.SaysStatus told planningStatus ∧ response = .data 200 data ∧
          data.Shows snapshot ∧ told.TellsOf snapshot ∧
          PokerRobot.SaysFinished snapshot.session snapshot.stories planningSummary := by
  intro robot stores response
  have opening : PokerRobot.Led database.crewFaithful database.crewEmpty [] database.crewEmpty :=
    .start
  obtain ⟨times, within, led⟩ := opening.storesAfter none planning
  have clock : Steady (planning.map (·.1.now)) := by decide
  have admits : database.Admits times := clock.sublist within
  have asked : (ask "eng" "cleo" "status").2.Asks "status" "eng" := ⟨by decide, rfl⟩
  have finished : (ask "eng" "cleo" "finish").2.Asks "finish" "eng" := ⟨by decide, rfl⟩
  have requested : Http.Service.AsksForSession
      ⟨"GET", "/poker/session", "channel=eng", none, []⟩ "eng" := ⟨rfl, rfl, by decide +kernel⟩
  have words : robot.spoken ⟨noon, noon.date⟩ (ask "eng" "cleo" "status").2 stores =
      [planningStatus] := by
    decide +kernel
  -- The tables are sorted to answer; the board has the same rows without any sorting.
  have sound := (inOrder_of_led led admits).sound
  have written : response.body.render = planningData := by
    have responded : response = _ := respond_crew sound .empty none requested noon "id"
    rw [responded]
    decide +kernel
  have list : robot.spoken ⟨noon, noon.date⟩ (ask "eng" "cleo" "finish").2 stores =
      [planningSummary] := by
    have said : robot.spoken ⟨noon, noon.date⟩ (ask "eng" "cleo" "finish").2 stores = _ :=
      PokerRobot.spoken_finish sound none ⟨noon, noon.date⟩ finished.verb
    rw [said]
    decide +kernel
  obtain ⟨status, summary, said, listed, missing, -, agree⟩ :=
    views_agree led admits asked finished requested .empty none ⟨noon, noon.date⟩
      ⟨noon, noon.date⟩ noon "id"
  obtain rfl : status = planningStatus := (List.cons.inj (said.symm.trans words)).1
  obtain rfl : summary = planningSummary := (List.cons.inj (listed.symm.trans list)).1
  have found : response.status ≠ 404 := fun absent => absurd (missing.2 absent) (by decide)
  exact ⟨words, written, list, agree found⟩

end Poker.Medium

end ChatRobots
