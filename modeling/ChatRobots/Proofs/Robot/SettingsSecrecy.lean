/-
Module: ChatRobots.Proofs.Robot.SettingsSecrecy
Purpose: Nothing that the settings robot says depends on the values that are kept.
Main exports: SettingsRobot.SameButValue, SettingsRobot.twins_run, SettingsRobot.serve_eq,
  SettingsRobot.replies_hide_values
-/
import ChatRobots.Proofs.Robot.ChannelViews
import ChatRobots.Proofs.Settings.Values
import ChatRobots.Proofs.Text.Cutting

namespace ChatRobots

open Settings

/-!
Users trust the robot with secrets, and the channel reads along.  Two runs are compared in which
the same users ask for the same things, except that what they set a name to may differ.  A value is
all that follows the first equals sign, so it cannot pass for a verb or for a part of the name, not
even when it holds spaces or equals signs itself; and once it is kept, no call of the stores looks
at it.
-/

namespace Settings

/-- The name of an assignment, if it is one, does not depend on what follows its equals sign. -/
theorem parseAssignment?_name (name value value' : List Char) :
    (parseAssignment? (String.ofList (name ++ '=' :: value))).map (·.1) =
      (parseAssignment? (String.ofList (name ++ '=' :: value'))).map (·.1) := by
  obtain ⟨rest, cut⟩ := Text.cut?_append_cons '=' name value
  obtain ⟨rest', cut'⟩ := Text.cut?_append_cons '=' name value'
  rw [parseAssignment?, parseAssignment?, String.toList_ofList, String.toList_ofList, cut, cut']
  dsimp only
  split <;> rfl

end Settings

namespace SettingsRobot

/-- A command that sets a name to a value. -/
def setting (name value : String) : String :=
  "set " ++ name ++ "=" ++ value

/-- However a name is set, the verb is the same, and what follows it is the name, the equals sign
and something that comes of the value. -/
theorem parse_setting (name value : String) :
    (Command.parse (setting name value)).verb = "set" ∧
      ∃ rest, (Command.parse (setting name value)).rawArgs =
        String.ofList (Text.trimStart name.toList ++ '=' :: rest) := by
  have solid : Text.isBlank '=' = false := by decide
  have written : (setting name value).toList =
      's' :: 'e' :: 't' :: ' ' :: (name.toList ++ '=' :: value.toList) := by
    simp [setting]
  have trimmed : Text.trim (setting name value).toList =
      's' :: 'e' :: 't' :: ' ' :: (name.toList ++ '=' :: Text.trimEnd value.toList) := by
    have start : Text.trimStart (setting name value).toList = (setting name value).toList := by
      rw [written]
      exact Text.trimStart_eq_self fun c first => Option.some.inj first ▸ rfl
    rw [Text.trim, start, written]
    exact Text.trimEnd_append_cons solid ('s' :: 'e' :: 't' :: ' ' :: name.toList) _
  have cut : Text.cut? ' ' (Text.trim (setting name value).toList) =
      some (['s', 'e', 't'], name.toList ++ '=' :: Text.trimEnd value.toList) := by
    rw [trimmed]
    rfl
  rw [Command.parse, cut]
  have args : Text.trim (name.toList ++ '=' :: Text.trimEnd value.toList) =
      Text.trimStart name.toList ++ '=' :: Text.trimEnd (Text.trimEnd value.toList) := by
    rw [Text.trim, Text.trimStart_append_cons solid, Text.trimEnd_append_cons solid]
  exact ⟨rfl, _, congrArg String.ofList args⟩

/-- Two payloads that differ at most in the value that a name is set to. -/
inductive SameButValue : Payload → Payload → Prop where
  | same (payload : Payload) : SameButValue payload payload
  | set (payload : Payload) (name value value' : String) :
      SameButValue { payload with text := setting name value }
        { payload with text := setting name value' }

/-- Two lists of requests that differ at most in the values that names are set to. -/
abbrev SameButValues (requests requests' : List (Clock × Payload)) : Prop :=
  List.Forall₂ (fun request request' => SameButValue request.2 request'.2) requests requests'

section Runs

variable {σ : Type} {store : Backend σ} {R : σ → σ → Prop}

theorem listing_eq {settings settings' : List Setting}
    (names : settings.map Setting.name = settings'.map Setting.name) (user : String) :
    listing user settings = listing user settings' := by
  have empty : settings.isEmpty = settings'.isEmpty := by
    rw [← List.isEmpty_map, names, List.isEmpty_map]
  rw [listing, listing, empty, names]

/-- A name that is set to two values is confirmed in the same words. -/
theorem twins_reply_set (hides : HidesValues store R) (payload payload' : Payload)
    (user : payload.userName = payload'.userName) {command command' : Command}
    (names : (parseAssignment? command.rawArgs).map (·.1) =
      (parseAssignment? command'.rawArgs).map (·.1)) :
    Twins R (reply store .set payload command).run (reply store .set payload' command').run := by
  unfold reply
  dsimp only
  cases given : parseAssignment? command.rawArgs with
  | none =>
      rw [given] at names
      rw [Option.map_eq_none_iff.1 names.symm]
      exact fun _ _ looks => ⟨rfl, looks⟩
  | some assignment =>
      rw [given] at names
      obtain ⟨assignment', given', name⟩ := Option.map_eq_some_iff.1 names.symm
      rw [given']
      dsimp only
      rw [user, name]
      exact twins_ask (hides.set _ _ _ _) fun _ _ _ => rfl

/-- What is said to a command depends on nothing but names. -/
theorem twins_reply (hides : HidesValues store R) (action : SettingsAction) (payload : Payload)
    (command : Command) :
    Twins R (reply store action payload command).run (reply store action payload command).run := by
  cases action with
  | list => exact twins_ask (hides.list payload.userName) fun _ _ names => listing_eq names _
  | set => exact twins_reply_set hides payload payload rfl rfl
  | remove =>
      unfold reply
      dsimp only
      split
      · exact fun _ _ looks => ⟨rfl, looks⟩
      · have told : ∀ removed : Bool, (if removed = true then
              (pure ("Successfully removed " ++ String.ofList (Text.trim command.rawArgs.toList)) :
                Handling σ String)
            else pure ("Setting " ++ String.ofList (Text.trim command.rawArgs.toList) ++
              " not found")) =
          pure (if removed = true then
              "Successfully removed " ++ String.ofList (Text.trim command.rawArgs.toList)
            else "Setting " ++ String.ofList (Text.trim command.rawArgs.toList) ++
              " not found") := fun removed => (apply_ite _ _ _ _).symm
        simp only [told]
        exact twins_ask (hides.remove _ _) fun a b same => by rw [show a = b from same]

variable (teamDomain : Option String)

/-- To say what the stores settle is to say the same. -/
theorem twins_handle {payload payload' : Payload} (same : payload.SamePlace payload')
    {action : SettingsAction} {command command' : Command}
    (twins : Twins R (reply store action payload command).run
      (reply store action payload' command').run) :
    Twins R (handle store (messenger teamDomain) action payload command).run
      (handle store (messenger teamDomain) action payload' command').run :=
  twins.bind_handling fun text => (messenger teamDomain).twins_say same text

theorem twins_dispatch (hides : HidesValues store R) {payload payload' : Payload}
    (same : SameButValue payload payload') :
    Twins R
      ((router (messenger teamDomain)).dispatch (handle store (messenger teamDomain)) payload
        payload.text)
      ((router (messenger teamDomain)).dispatch (handle store (messenger teamDomain)) payload'
        payload'.text) := by
  cases same with
  | same =>
      apply Router.twins_dispatch ⟨rfl, rfl⟩ rfl
      intro action _
      exact twins_handle teamDomain ⟨rfl, rfl⟩ (twins_reply hides action payload _)
  | set payload name value value' =>
      obtain ⟨verb, rest, args⟩ := parse_setting name value
      obtain ⟨verb', rest', args'⟩ := parse_setting name value'
      have names := parseAssignment?_name (Text.trimStart name.toList) rest rest'
      rw [← args, ← args'] at names
      have place : Payload.SamePlace { payload with text := setting name value }
          { payload with text := setting name value' } := ⟨rfl, rfl⟩
      change Twins R (Router.dispatch _ _ _ (setting name value))
        (Router.dispatch _ _ _ (setting name value'))
      apply Router.twins_dispatch place (verb.trans verb'.symm)
      intro action asked
      -- The verb of both commands asks for the action that sets a name.
      have sets : action = .set := by
        have found : (router (messenger teamDomain)).action?
            (.parse (setting name value)) = some .set := by
          rw [Router.action?, Command.isDefault, verb]
          rfl
        exact Option.some.inj (asked.symm.trans found)
      subst sets
      apply twins_handle teamDomain place
      apply twins_reply_set hides
      · rfl
      · exact names

/-- Payloads that differ at most in a value are handled alike. -/
theorem twins_run (hides : HidesValues store R) {payload payload' : Payload}
    (same : SameButValue payload payload') (clock clock' : Clock) :
    Twins R ((robot store teamDomain).run clock payload)
      ((robot store teamDomain).run clock' payload') :=
  (twins_dispatch teamDomain hides same).bind fun _ => twins_pure RunEnd.finished

/-- Payload by payload, the two runs say the same. -/
theorem serve_eq (hides : HidesValues store R) {requests requests' : List (Clock × Payload)}
    (same : SameButValues requests requests') {scene scene' : Scene σ}
    (looks : scene.LooksLike R scene') :
    ((robot store teamDomain).serve requests scene).map (·.2) =
      ((robot store teamDomain).serve requests' scene').map (·.2) := by
  induction same generalizing scene scene' with
  | nil => rfl
  | cons head _ ih =>
      obtain ⟨-, after⟩ := twins_run teamDomain hides head _ _ looks
      rw [Robot.serve, Robot.serve, List.map_cons, List.map_cons, ih after, after.messages,
        looks.messages]

end Runs

end SettingsRobot

namespace Poker.Medium

/-- The relation of two crews' stores that hold the same names of settings. -/
def SameSettingNames : (medium : Medium) → medium.CrewState → medium.CrewState → Prop
  | memory, stores, stores' => stores.settings.SameNames stores'.settings
  | database, db, db' => db.SameSettingNames db'

theorem hidesValues (medium : Medium) :
    HidesValues medium.crewStores.settings medium.SameSettingNames := by
  cases medium with
  | memory => exact Settings.Memory.hidesValues.within fun _ _ => rfl
  | database => exact Database.settingsHidesValues

theorem sameSettingNames_empty (medium : Medium) :
    medium.SameSettingNames medium.crewEmpty medium.crewEmpty := by
  cases medium with
  | memory => exact List.Forall₂.nil
  | database => exact ⟨rfl, .nil, rfl⟩

end Poker.Medium

namespace SettingsRobot

/-- Whatever values the names are set to, the robot says the same to every request, from empty
stores in memory or in the database, whether messages are delivered or refused. -/
theorem replies_hide_values (medium : Poker.Medium) (teamDomain : Option String)
    (refusal : Option ReplyError) {requests requests' : List (Clock × Payload)}
    (same : SameButValues requests requests') :
    let robot := SettingsRobot.robot medium.crewStores.settings teamDomain
    let start : Scene medium.CrewState := { stores := medium.crewEmpty, refusal := refusal }
    (robot.serve requests start).map (·.2) = (robot.serve requests' start).map (·.2) :=
  serve_eq teamDomain medium.hidesValues same ⟨medium.sameSettingNames_empty, rfl, rfl⟩

/-- A request of a user to the robot, at noon. -/
def request (user text : String) : Clock × Payload :=
  (⟨Poker.Medium.noon, Poker.Medium.noon.date⟩,
    ⟨"team", "C1", "eng", "U1", user, "store", text, ""⟩)

/-- A user keeps a token under a name, looks at the names, and takes the name away again. -/
def keepToken (token : String) : List (Clock × Payload) :=
  [request "ann" (setting "jira token" token), request "ann" "list", request "bob" "list",
    request "ann" "remove jira token"]

/-- Two tokens, one of them with spaces, equals signs and a line of its own, are kept with the
same words. -/
theorem replies_to_keepToken :
    let robot := SettingsRobot.robot Poker.Medium.database.crewStores.settings none
    let start : Scene Database := { stores := Poker.Medium.database.crewEmpty }
    (robot.serve (keepToken "s3cret") start).map (·.2) =
        (robot.serve (keepToken " remove jira token=\n x ") start).map (·.2) ∧
      (robot.serve (keepToken "s3cret") start).map (·.2.map (·.text)) =
        [["Successfully set jira token"],
          ["You have the following settings configured:\njira token"], ["No settings for @bob"],
          ["Successfully removed jira token"]] := by
  have same : SameButValues (keepToken "s3cret") (keepToken " remove jira token=\n x ") :=
    .cons (.set (request "ann" "").2 "jira token" _ _)
      (.cons (.same _) (.cons (.same _) (.cons (.same _) .nil)))
  exact ⟨replies_hide_values .database none none same, by decide +kernel⟩

end SettingsRobot

end ChatRobots
