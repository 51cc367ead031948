/-
Module: ChatRobots.Robot.Settings
Purpose: The robot that keeps settings for its users.
Main exports: SettingsAction, SettingsRobot.handle, SettingsRobot.robot
-/
import ChatRobots.Settings.Basic
import ChatRobots.Robot.Registry
import ChatRobots.Robot.Router

namespace ChatRobots

/-!
The robot answers each command with one message.  It tells the names of a user's settings and
never their values.  A name is taken from the whole text after the verb, so it may hold colons and
spaces.
-/

inductive SettingsAction where
  | list
  | set
  | remove
deriving DecidableEq, Repr

namespace SettingsRobot

open Settings

def messenger (teamDomain : Option String) : Messenger :=
  ⟨BotIdentity.ofTexts "Store" ":floppy_disk:", teamDomain⟩

def router (messenger : Messenger) : Router SettingsAction :=
  Router.new "store" messenger
    |>.registerDefault .list
    |>.register "list" .list
    |>.register "set" .set
    |>.registerMany ["rem", "del", "remove", "delete"] .remove

/-- The names of settings, one to a line. -/
def listing (user : String) (settings : List Setting) : String :=
  if settings.isEmpty then "No settings for @" ++ user
  else "You have the following settings configured:\n" ++
    "\n".intercalate (settings.map (·.name))

variable {σ : Type} (store : Backend σ)

/-- The reply to an action. -/
def reply (action : SettingsAction) (payload : Payload) (command : Command) :
    Handling σ String :=
  match action with
  | .list => do
      let settings ← callStore (store.list payload.userName)
      pure (listing payload.userName settings)
  | .set =>
      match parseAssignment? command.rawArgs with
      | none => pure "Malformed setting. Use /store set PARAM=value."
      | some (name, value) => do
          let _ ← callStore (store.set payload.userName name value)
          pure ("Successfully set " ++ name)
  | .remove => do
      let name := String.ofList (Text.trim command.rawArgs.toList)
      if name = "" then pure "Use /store remove PARAM."
      else if ← callStore (store.remove payload.userName name) then
        pure ("Successfully removed " ++ name)
      else pure ("Setting " ++ name ++ " not found")

/-- Perform an action and answer. -/
def handle (messenger : Messenger) : Router.Handler SettingsAction σ :=
  fun action payload command => do
    let text ← reply store action payload command
    messenger.say payload text

/-- The robot over a settings store. -/
def robot (teamDomain : Option String) : Robot σ where
  name := "Store"
  description := "Stores per-user settings used by other robots"
  messenger := SettingsRobot.messenger teamDomain
  run _ payload := do
    let messenger := SettingsRobot.messenger teamDomain
    let _ ← (router messenger).dispatch (handle store messenger) payload payload.text
    pure .finished

end SettingsRobot

end ChatRobots
