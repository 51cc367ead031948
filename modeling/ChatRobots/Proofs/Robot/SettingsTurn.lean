/-
Module: ChatRobots.Proofs.Robot.SettingsTurn
Purpose: What a payload comes to for the settings robot, read off the dictionary of its user.
Main exports: SettingsRobot.turn, SettingsRobot.answer, SettingsRobot.answered_of_reply,
  SettingsRobot.run_reply, SettingsRobot.answered_robot
-/
import ChatRobots.Proofs.Robot.CrewAnswers
import ChatRobots.Proofs.Settings.Faithful

namespace ChatRobots

open Settings

/-!
Handling a payload says one text and leaves the user a dictionary.  Both can be read off the
dictionary that the user had before, and over any store that keeps dictionaries the robot does just
this: the text is said, or its refusal is logged, and no other dictionary is written.
-/

namespace SettingsRobot

/-- What an action says to a user with this dictionary, and the dictionary that it leaves. -/
def turn (own : Dictionary String) (user : String) (command : Command) :
    SettingsAction → String × Dictionary String
  | .list => (listing user (settingsOf user own), own)
  | .set =>
      match parseAssignment? command.rawArgs with
      | none => ("Malformed setting. Use /store set PARAM=value.", own)
      | some (name, value) => ("Successfully set " ++ name, own.put name value)
  | .remove =>
      let name := String.ofList (Text.trim command.rawArgs.toList)
      if name = "" then ("Use /store remove PARAM.", own)
      else (if (own.find? name).isSome then "Successfully removed " ++ name
        else "Setting " ++ name ++ " not found", own.erase name)

/-- What a payload comes to, its user having this dictionary. -/
def answer (teamDomain : Option String) (payload : Payload) (own : Dictionary String) :
    String × Dictionary String :=
  let command := Command.parse payload.text
  match (router (messenger teamDomain)).action? command with
  | none => ((router (messenger teamDomain)).guidance command, own)
  | some action => turn own payload.userName command action

section Answers

variable {σ : Type} {store : Backend σ} {teamDomain : Option String} {payload : Payload}
  {action : SettingsAction} {scene : Scene σ}

theorem run_robot (clock : Clock) (payload : Payload) (teamDomain : Option String)
    (scene : Scene σ) : (robot store teamDomain).run clock payload scene =
      (.finished, ((router (messenger teamDomain)).dispatch (handle store (messenger teamDomain))
        payload payload.text scene).2) :=
  run_bind_pure _ RunEnd.finished scene

/-- A payload that asks for no action is told the verbs. -/
theorem answered_of_no_action (clock : Clock)
    (asked : (router (messenger teamDomain)).action? (.parse payload.text) = none)
    (scene : Scene σ) :
    (messenger teamDomain).Answered "store" payload
      (⟨(router (messenger teamDomain)).guidance (.parse payload.text), []⟩, scene.stores) scene
      ((robot store teamDomain).run clock payload scene).2 := by
  rw [run_robot, Router.dispatch_of_no_action asked]
  exact Router.answered_reply (router (messenger teamDomain)) payload _ scene

/-- What an action settles with the store is said, and what it failed of is reported. -/
theorem answered_of_reply (clock : Clock)
    (asked : (router (messenger teamDomain)).action? (.parse payload.text) = some action)
    {result : Except RobotError String} {after : σ}
    (replied : reply store action payload (.parse payload.text) scene =
      (result, { scene with stores := after })) :
    (messenger teamDomain).Answered "store" payload
      ((router (messenger teamDomain)).settle (result.map fun text => ⟨text, []⟩, after)) scene
      ((robot store teamDomain).run clock payload scene).2 := by
  rw [run_robot]
  exact Router.answered_dispatch_of_quiet (quiet_reply store action payload (.parse payload.text))
    rfl asked replied

end Answers

section Stores

variable {σ : Type} {store : Backend σ} (faithful : Faithful store)

/-- Nothing was written to the dictionary. -/
theorem writes_own {s : σ} (sound : faithful.Sound s) (user : String) :
    Writes faithful.own faithful.Sound user (faithful.own s user) s s :=
  ⟨sound, (Function.update_eq_self user (faithful.own s)).symm⟩

/-- An action settles its text with the store, and writes its dictionary. -/
theorem run_reply {scene : Scene σ} (sound : faithful.Sound scene.stores)
    (action : SettingsAction) (payload : Payload) (command : Command) :
    let outcome := turn (faithful.own scene.stores payload.userName) payload.userName command action
    ∃ after, reply store action payload command scene =
        (.ok outcome.1, { scene with stores := after }) ∧
      Writes faithful.own faithful.Sound payload.userName outcome.2 scene.stores after := by
  cases action with
  | list =>
      refine ⟨scene.stores, ?_, writes_own faithful sound _⟩
      exact run_bind_of_ok (run_callStore_of_ok (faithful.list sound payload.userName))
  | set =>
      unfold reply turn
      dsimp only
      cases parseAssignment? command.rawArgs with
      | none => exact ⟨scene.stores, rfl, writes_own faithful sound _⟩
      | some assignment =>
          obtain ⟨name, value⟩ := assignment
          obtain ⟨after, wrote, writes⟩ := faithful.set sound payload.userName name value
          exact ⟨after, run_bind_of_ok (run_callStore_of_ok wrote), writes⟩
  | remove =>
      unfold reply turn
      dsimp only
      generalize String.ofList (Text.trim command.rawArgs.toList) = name
      by_cases blank : name = ""
      · rw [if_pos blank, if_pos blank]
        exact ⟨scene.stores, rfl, writes_own faithful sound _⟩
      · obtain ⟨after, removed, writes⟩ := faithful.remove sound payload.userName name
        rw [if_neg blank, if_neg blank, run_bind_of_ok (run_callStore_of_ok removed)]
        refine ⟨after, ?_, writes⟩
        cases ((faithful.own scene.stores payload.userName).find? name).isSome with
        | true => rfl
        | false => rfl

/-- The robot answers a payload as the dictionary of its user says, and writes no other one. -/
theorem answered_robot {scene : Scene σ} (sound : faithful.Sound scene.stores) (clock : Clock)
    (payload : Payload) (teamDomain : Option String) :
    let outcome := answer teamDomain payload (faithful.own scene.stores payload.userName)
    ∃ after, (messenger teamDomain).Answered "store" payload (⟨outcome.1, []⟩, after) scene
        ((robot store teamDomain).run clock payload scene).2 ∧
      Writes faithful.own faithful.Sound payload.userName outcome.2 scene.stores after := by
  cases asked : (router (messenger teamDomain)).action? (.parse payload.text) with
  | none =>
      simp only [answer, asked]
      exact ⟨scene.stores, answered_of_no_action clock asked scene,
        writes_own faithful sound _⟩
  | some action =>
      obtain ⟨after, replied, writes⟩ :=
        run_reply faithful sound action payload (.parse payload.text)
      simp only [answer, asked]
      exact ⟨after, answered_of_reply clock asked replied, writes⟩

end Stores

end SettingsRobot

end ChatRobots
