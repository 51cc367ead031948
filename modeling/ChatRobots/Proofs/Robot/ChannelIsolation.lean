/-
Module: ChatRobots.Proofs.Robot.ChannelIsolation
Purpose: What is said in a channel depends on the payloads of this channel alone.
Main exports: Robot.serve, PokerRobot.SameWithin, PokerRobot.serve_filter,
  Poker.Medium.served_in_channel
-/
import ChatRobots.Proofs.Poker.Medium
import ChatRobots.Proofs.Robot.PokerHandling

namespace ChatRobots

open Poker

/-!
Two runs of the poker robot are compared: one with all payloads, one with those of a channel only.
The two stores hold different rows, and rows for the same things have different ids.  What stays
the same is the part of the board that belongs to the channel, up to names: a payload of the
channel is answered alike from both parts and changes both alike, and a payload of another channel
leaves the part as it is.
-/

/-- Requests handled one after another: each payload, with the messages it was answered with. -/
def Robot.serve {σ : Type} (robot : Robot σ) :
    List (Clock × Payload) → Scene σ → List (Payload × List Message)
  | [], _ => []
  | (clock, payload) :: rest, scene =>
      let after := (robot.run clock payload scene).2
      (payload, after.messages.drop scene.messages.length) :: robot.serve rest after

namespace PokerRobot

section Runs

variable {σ : Type} {store : Backend σ} (faithful : Faithful store) (teamDomain : Option String)

/-- The times at which rows are inserted while these requests are handled. -/
def schedule : List (Clock × Payload) → Scene σ → List Instant
  | [], _ => []
  | (clock, payload) :: rest, scene =>
      (answer (partOf faithful payload scene.stores) payload (messenger teamDomain)).stamps
          clock.now ++
        schedule rest ((robot store teamDomain).run clock payload scene).2

/-- Rows are inserted at some of the times at which requests are handled. -/
theorem schedule_sublist (requests : List (Clock × Payload)) (scene : Scene σ) :
    (schedule faithful teamDomain requests scene).Sublist (requests.map (·.1.now)) := by
  induction requests generalizing scene with
  | nil => exact .slnil
  | cons request rest ih =>
      exact (Turn.stamps_sublist _ request.1.now).append (ih _)

/-- Two scenes that look the same from a channel, up to names. -/
structure SameWithin (channel : String) (names : Names) (scene scene' : Scene σ) : Prop where
  working : scene.refusal = none
  working' : scene'.refusal = none
  wellFormed : (faithful.board scene.stores).WellFormed
  wellFormed' : (faithful.board scene'.stores).WellFormed
  alike : Board.Alike names Eq ((faithful.board scene.stores).within channel)
    ((faithful.board scene'.stores).within channel)

section Step

variable {faithful} {channel : String} {names : Names} {scene scene' after after' : Scene σ}
  {messenger : Messenger} {payload : Payload} {now : Instant} {times times' : List Instant}
  {turn turn' : Turn}

theorem Answered.reply_eq
    (answered : Answered faithful messenger payload now times turn scene after) :
    after.messages.drop scene.messages.length =
      (turn.texts (partOf faithful payload after.stores)).map (messenger.message payload) := by
  rw [answered.messages, List.drop_left]

theorem Answered.sound (answered : Answered faithful messenger payload now times turn scene after) :
    faithful.Sound times after.stores := by
  have stored := answered.stored
  cases turn with
  | tells | fails => exact stored.1 ▸ stored.2
  | writes change texts =>
      obtain ⟨id, wrote⟩ := stored
      exact wrote.sound

/-- Scenes that look the same from a channel say the same in it, and do so after a turn in it. -/
theorem SameWithin.own (same : SameWithin faithful channel names scene scene')
    (alike : turn.Alike names turn')
    (about : turn.Changes (·.About channel (faithful.board scene.stores)))
    (about' : turn'.Changes (·.About channel (faithful.board scene'.stores)))
    (answered : Answered faithful messenger payload now times turn scene after)
    (answered' : Answered faithful messenger payload now times' turn' scene' after') :
    ∃ more, SameWithin faithful channel more after after' ∧
      turn.texts ((faithful.board after.stores).within channel) =
        turn'.texts ((faithful.board after'.stores).within channel) := by
  have stored := answered.stored
  have stored' := answered'.stored
  cases alike with
  | tells | fails =>
      refine ⟨names, ⟨answered.working, answered'.working, ?_, ?_, ?_⟩, rfl⟩
      · exact stored.1 ▸ same.wellFormed
      · exact stored'.1 ▸ same.wellFormed'
      · exact stored.1 ▸ stored'.1 ▸ same.alike
  | @writes change change' texts texts' changes said =>
      obtain ⟨id, wrote⟩ := stored
      obtain ⟨id', wrote'⟩ := stored'
      have here : change.About channel (faithful.board scene.stores) := about
      have here' : change'.About channel (faithful.board scene'.stores) := about'
      have parts : Board.Alike (names.extend id id' change) Eq
          ((faithful.board after.stores).within channel)
          ((faithful.board after'.stores).within channel) := by
        rw [wrote.board_eq, wrote'.board_eq,
          Board.within_apply same.wellFormed _ _ wrote.fresh,
          Board.within_apply same.wellFormed' _ _ wrote'.fresh, if_pos here, if_pos here']
        exact same.alike.apply (fun _ => rfl) now now changes (wrote.fresh.within channel)
          (wrote'.fresh.within channel)
      refine ⟨_, ⟨answered.working, answered'.working, ?_, ?_, parts⟩, ?_⟩
      · exact wrote.board_eq ▸ same.wellFormed.apply _ _ here.fits wrote.fresh
      · exact wrote'.board_eq ▸ same.wellFormed'.apply _ _ here'.fits wrote'.fresh
      · exact said _ _ _ (names.within_extend id id' change) parts

/-- A turn in another channel is not seen. -/
theorem SameWithin.other (same : SameWithin faithful channel names scene scene') {other : String}
    (differs : other ≠ channel)
    (about : turn.Changes (·.About other (faithful.board scene.stores)))
    (answered : Answered faithful messenger payload now times turn scene after) :
    SameWithin faithful channel names after scene' := by
  have stored := answered.stored
  cases turn with
  | tells | fails =>
      exact ⟨answered.working, same.working', stored.1 ▸ same.wellFormed, same.wellFormed',
        stored.1 ▸ same.alike⟩
  | writes change texts =>
      obtain ⟨id, wrote⟩ := stored
      have there : change.About other (faithful.board scene.stores) := about
      have elsewhere : ¬ change.About channel (faithful.board scene.stores) := fun here =>
        differs (same.wellFormed.about_eq there here)
      refine ⟨answered.working, same.working', ?_, same.wellFormed', ?_⟩
      · exact wrote.board_eq ▸ same.wellFormed.apply _ _ there.fits wrote.fresh
      · rw [wrote.board_eq, Board.within_apply same.wellFormed _ _ wrote.fresh, if_neg elsewhere]
        exact same.alike

end Step

theorem sound_of_stamps {now : Instant} {times : List Instant} {turn : Turn} {s : σ}
    (sound : faithful.Sound (turn.stamps now ++ times) s) : faithful.Sound times s := by
  unfold Turn.stamps at sound
  split at sound
  · exact faithful.sound_tail sound
  · exact faithful.sound_tail sound
  · exact faithful.sound_tail sound
  · exact sound

/-- With all requests, the ones of a channel are answered as they are without the others. -/
theorem serve_filter {channel : String} {names : Names} (requests : List (Clock × Payload))
    {scene scene' : Scene σ} {times : List Instant}
    (same : SameWithin faithful channel names scene scene')
    (sound : faithful.Sound (schedule faithful teamDomain requests scene ++ times) scene.stores)
    (sound' : faithful.Sound (schedule faithful teamDomain requests scene ++ times) scene'.stores) :
    ((robot store teamDomain).serve requests scene).filter (·.1.channelName == channel) =
      (robot store teamDomain).serve (requests.filter (·.2.channelName == channel)) scene' := by
  induction requests generalizing names scene scene' with
  | nil => rfl
  | cons request rest ih =>
      obtain ⟨clock, payload⟩ := request
      rw [schedule, List.append_assoc] at sound sound'
      have answered := answered_robot same.working sound
      have about := answer_about (faithful.board scene.stores) payload (messenger teamDomain)
      by_cases own : payload.channelName = channel
      · subst own
        have alike := answer_alike same.alike payload (messenger teamDomain)
        rw [alike.stamps_eq] at sound'
        have answered' := answered_robot same.working' sound'
        obtain ⟨more, still, texts⟩ :=
          same.own alike about (answer_about _ payload _) answered answered'
        have remaining := ih still answered.sound answered'.sound
        rw [Robot.serve, List.filter_cons_of_pos (by simp), List.filter_cons_of_pos (by simp),
          Robot.serve, remaining, answered.reply_eq, answered'.reply_eq, partOf, partOf, texts]
      · have unseen := same.other own about answered
        have remaining := ih unseen answered.sound (sound_of_stamps faithful sound')
        rw [Robot.serve, List.filter_cons_of_neg (by simpa using own),
          List.filter_cons_of_neg (by simpa using own), remaining]

end Runs

end PokerRobot

namespace Poker.Medium

/-- Nothing has happened yet: the store is empty, and messages are delivered. -/
def quiet (medium : Medium) : Scene medium.State :=
  { stores := medium.empty }

/-- Requests to the poker robot, each with the messages that answer it. -/
def served (medium : Medium) (teamDomain : Option String) (requests : List (Clock × Payload)) :
    List (Payload × List Message) :=
  (PokerRobot.robot medium.backend teamDomain).serve requests medium.quiet

/-- The times at which rows are inserted while these requests are handled. -/
def insertionsServing (medium : Medium) (teamDomain : Option String)
    (requests : List (Clock × Payload)) : List Instant :=
  PokerRobot.schedule medium.faithful teamDomain requests medium.quiet

/-- It is enough that the clock never goes back from request to request. -/
theorem admits_serving_of_clock (medium : Medium) {teamDomain : Option String}
    {requests : List (Clock × Payload)} (clock : Steady (requests.map (·.1.now))) :
    medium.Admits (medium.insertionsServing teamDomain requests) := by
  cases medium with
  | memory => trivial
  | database => exact clock.sublist (PokerRobot.schedule_sublist _ teamDomain requests _)

/-- Whatever else is going on in other channels, a channel hears what it would hear alone. -/
theorem served_in_channel {medium : Medium} {teamDomain : Option String}
    {requests : List (Clock × Payload)}
    (admits : medium.Admits (medium.insertionsServing teamDomain requests)) (channel : String) :
    (medium.served teamDomain requests).filter (·.1.channelName == channel) =
      medium.served teamDomain (requests.filter (·.2.channelName == channel)) := by
  have wellFormed : (medium.board medium.empty).WellFormed := by
    rw [board_empty]
    exact Board.wellFormed_empty
  have same : PokerRobot.SameWithin medium.faithful channel {} medium.quiet medium.quiet := by
    refine ⟨rfl, rfl, wellFormed, wellFormed, ?_⟩
    have empty : medium.faithful.board medium.quiet.stores = {} := medium.board_empty
    rw [empty]
    exact .empty Eq
  have sound : medium.faithful.Sound
      (PokerRobot.schedule medium.faithful teamDomain requests medium.quiet ++ [])
      medium.quiet.stores := by
    rw [List.append_nil]
    exact sound_empty admits
  exact PokerRobot.serve_filter medium.faithful teamDomain requests same sound sound

/-- A request at noon. -/
def ask (channel user text : String) : Clock × Payload :=
  (⟨noon, noon.date⟩, ⟨"team", channel, channel, user, user, "poker", text, ""⟩)

/-- Two channels, by turns. -/
def twoChannels : List (Clock × Payload) :=
  [ask "eng" "ann" "session Sprint users:ann", ask "ops" "cleo" "session Outage",
    ask "eng" "ann" "story Login", ask "ops" "cleo" "story Disk", ask "eng" "ann" "vote 3",
    ask "ops" "cleo" "reveal", ask "eng" "bob" "finish"]

/-- One of the two channels hears what it would hear without the other. -/
theorem served_twoChannels :
    (database.served none twoChannels).filter (·.1.channelName == "eng") =
      database.served none (twoChannels.filter (·.2.channelName == "eng")) :=
  have clock : Steady (twoChannels.map (·.1.now)) := by decide
  served_in_channel (database.admits_serving_of_clock clock) "eng"

end Poker.Medium

end ChatRobots
