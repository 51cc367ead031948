/-
Module: ChatRobots.Proofs.Robot.SettingsIsolation
Purpose: What the settings robot says to a user depends on the payloads of this user alone.
Main exports: SettingsRobot.SameFor, SettingsRobot.serve_filter,
  SettingsRobot.served_user_as_alone
-/
import ChatRobots.Proofs.Robot.ChannelIsolation
import ChatRobots.Proofs.Robot.ChannelViews
import ChatRobots.Proofs.Robot.SettingsTurn

namespace ChatRobots

open Settings

/-!
Two runs are compared: one with all payloads, one with those of a user only.  What stays the same
in both is the dictionary of this user.  A payload of the user is answered from the dictionary and
changes it in the same way in both runs; a payload of another user leaves it alone.
-/

/-- What was delivered in answer to a payload: all that there is to say, or nothing. -/
theorem Messenger.Answered.messages_drop {σ : Type} {messenger : Messenger} {name : String}
    {payload : Payload} {answer : Reply × σ} {before after : Scene σ}
    (answered : messenger.Answered name payload answer before after) :
    after.messages.drop before.messages.length =
      match before.refusal with
      | none => answer.1.texts.map (messenger.message payload)
      | some _ => [] := by
  cases delivery : before.refusal with
  | none => rw [answered.delivered delivery, List.drop_left]
  | some error => rw [(answered.refused error delivery).1, List.drop_length]

namespace SettingsRobot

section Runs

variable {σ : Type} {store : Backend σ} (faithful : Faithful store) (teamDomain : Option String)

/-- Two scenes that are the same for a user. -/
structure SameFor (user : String) (scene scene' : Scene σ) : Prop where
  refusal : scene.refusal = scene'.refusal
  sound : faithful.Sound scene.stores
  sound' : faithful.Sound scene'.stores
  own : faithful.own scene.stores user = faithful.own scene'.stores user

variable {faithful} {user : String} {scene scene' : Scene σ} {payload : Payload}

/-- A payload of the user is answered alike, and the scenes stay the same for the user. -/
theorem SameFor.own_payload (same : SameFor faithful user scene scene')
    (own : payload.userName = user) (clock : Clock) :
    let after := ((robot store teamDomain).run clock payload scene).2
    let after' := ((robot store teamDomain).run clock payload scene').2
    after.messages.drop scene.messages.length = after'.messages.drop scene'.messages.length ∧
      SameFor faithful user after after' := by
  subst own
  obtain ⟨stores, answered, wrote⟩ :=
    answered_robot faithful same.sound clock payload teamDomain
  obtain ⟨stores', answered', wrote'⟩ :=
    answered_robot faithful same.sound' clock payload teamDomain
  refine ⟨?_, ?_, ?_, ?_, ?_⟩
  · rw [answered.messages_drop, answered'.messages_drop, same.refusal, same.own]
  · rw [answered.refusal, answered'.refusal, same.refusal]
  · exact answered.stores ▸ wrote.sound
  · exact answered'.stores ▸ wrote'.sound
  · rw [answered.stores, answered'.stores, wrote.own_eq, wrote'.own_eq, same.own,
      Function.update_self, Function.update_self]

/-- A payload of another user makes no difference to the user. -/
theorem SameFor.other_payload (same : SameFor faithful user scene scene')
    (other : payload.userName ≠ user) (clock : Clock) :
    SameFor faithful user ((robot store teamDomain).run clock payload scene).2 scene' := by
  obtain ⟨stores, answered, wrote⟩ :=
    answered_robot faithful same.sound clock payload teamDomain
  refine ⟨answered.refusal.trans same.refusal, ?_, same.sound', ?_⟩
  · exact answered.stores ▸ wrote.sound
  · rw [answered.stores, wrote.own_eq, Function.update_of_ne (Ne.symm other), same.own]

/-- Among all requests, those of the user are answered as they are without the others. -/
theorem serve_filter (requests : List (Clock × Payload))
    (same : SameFor faithful user scene scene') :
    ((robot store teamDomain).serve requests scene).filter (·.1.userName == user) =
      (robot store teamDomain).serve (requests.filter (·.2.userName == user)) scene' := by
  induction requests generalizing scene scene' with
  | nil => rfl
  | cons request rest ih =>
      obtain ⟨clock, payload⟩ := request
      by_cases own : payload.userName = user
      · obtain ⟨messages, still⟩ := same.own_payload teamDomain own clock
        rw [Robot.serve, List.filter_cons_of_pos (by simpa using own),
          List.filter_cons_of_pos (by simpa using own), Robot.serve, ih still, messages]
      · have unseen := same.other_payload teamDomain own clock
        rw [Robot.serve, List.filter_cons_of_neg (by simpa using own),
          List.filter_cons_of_neg (by simpa using own), ih unseen]

end Runs

end SettingsRobot

namespace MemoryStores

theorem settings_put (settings : Memory) (stores : MemoryStores) :
    { stores with settings := settings }.settings = settings :=
  rfl

theorem put_settings (stores : MemoryStores) :
    { stores with settings := stores.settings } = stores :=
  rfl

end MemoryStores

namespace Poker.Medium

/-- The settings of the crew are kept in dictionaries, wherever they are kept. -/
def settingsFaithful : (medium : Medium) → Settings.Faithful medium.crewStores.settings
  | memory => Settings.Memory.faithful.within MemoryStores.settings_put MemoryStores.put_settings
  | database => Database.settingsFaithful

theorem settingsSound_empty (medium : Medium) :
    medium.settingsFaithful.Sound medium.crewEmpty := by
  cases medium with
  | memory => exact List.nodup_nil
  | database => exact ⟨rfl, List.nodup_nil⟩

end Poker.Medium

namespace SettingsRobot

/-- Whoever else keeps settings, and whenever, a user is told what the user would be told alone:
from empty stores in memory or in the database, whether messages are delivered or refused. -/
theorem served_user_as_alone (medium : Poker.Medium) (teamDomain : Option String)
    (refusal : Option ReplyError) (requests : List (Clock × Payload)) (user : String) :
    let robot := SettingsRobot.robot medium.crewStores.settings teamDomain
    let start : Scene medium.CrewState := { stores := medium.crewEmpty, refusal := refusal }
    (robot.serve requests start).filter (·.1.userName == user) =
      robot.serve (requests.filter (·.2.userName == user)) start :=
  have sound := medium.settingsSound_empty
  have same : SameFor medium.settingsFaithful user _ _ := ⟨rfl, sound, sound, rfl⟩
  serve_filter teamDomain requests same

end SettingsRobot

end ChatRobots
