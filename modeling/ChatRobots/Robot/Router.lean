/-
Module: ChatRobots.Robot.Router
Purpose: From the text of a command to the action of a robot.
Main exports: Router, Router.dispatch, Outcome
-/
import ChatRobots.Command
import ChatRobots.Robot.Messenger

namespace ChatRobots

/-!
A router knows the verbs of a robot and the action for each.  The empty verb asks for the default
action; `help`, whatever is registered under it, asks for the list of the verbs.  A text that
leads to no action is answered with that list.

A failed action is reported twice: to the log, and to the user who asked.
-/

/-- What became of a command. -/
inductive Outcome where
  | handled
  | failed
  | byDefault
  | help
  | missingCommand
  | unknown (verb : String)
deriving DecidableEq, Repr

/-- The verbs of a robot with actions of type `A`. -/
structure Router (A : Type) where
  name : String
  messenger : Messenger
  verbs : Dictionary A := .empty
  defaultAction : Option A := none

namespace Router

variable {A σ : Type}

def new (name : String) (messenger : Messenger) : Router A :=
  { name := name, messenger := messenger }

/-- Put an action under a verb; a later one replaces an earlier one. -/
def register (verb : String) (action : A) (router : Router A) : Router A :=
  { router with verbs := router.verbs.put verb action }

def registerMany (verbs : List String) (action : A) (router : Router A) : Router A :=
  verbs.foldl (fun router verb => router.register verb action) router

def registerDefault (action : A) (router : Router A) : Router A :=
  { router with defaultAction := some action }

/-- The list of the verbs, in order. -/
def helpText (router : Router A) : String :=
  "*Usage:* `/" ++ router.name ++ " <command>`\n*Commands:* " ++
    ", ".intercalate (router.verbs.keys.map fun verb => "`" ++ verb ++ "`")

/-- Log a reply that could not be delivered. -/
def noteReply (router : Router A) (payload : Payload) :
    Except ReplyError Unit → Chat σ Unit
  | .ok () => pure ()
  | .error error => logEvent (.replyFailed payload router.name error)

/-- Answer without an action. -/
def reply (router : Router A) (payload : Payload) (text : String) : Chat σ Unit := do
  let result ← router.messenger.send payload text
  router.noteReply payload result

/-- What performs an action. -/
abbrev Handler (A σ : Type) := A → Payload → Command → Handling σ Unit

/-- Perform an action, and report its failure. -/
def run (router : Router A) (handler : Handler A σ) (action : A) (payload : Payload)
    (command : Command) : Chat σ Outcome := do
  logEvent (.commandDispatched payload router.name command.verb)
  match ← handler action payload command |>.run with
  | .ok () => pure .handled
  | .error error => do
      logEvent (.commandFailed payload router.name error)
      let result ← router.messenger.sendError payload error.message
      router.noteReply payload result
      pure .failed

/-- Handle the text of a command. -/
def dispatch (router : Router A) (handler : Handler A σ) (payload : Payload) (raw : String) :
    Chat σ Outcome := do
  let command := Command.parse raw
  if command.isDefault then
    match router.defaultAction with
    | some action => do
        let _ ← router.run handler action payload command
        pure .byDefault
    | none => do
        router.reply payload ("You must enter a command.\n" ++ router.helpText)
        pure .missingCommand
  else if command.verb = "help" then do
    router.reply payload router.helpText
    pure .help
  else match router.verbs.find? command.verb with
    | some action => router.run handler action payload command
    | none => do
        router.reply payload ("Invalid command *" ++ command.verb ++ "*\n" ++ router.helpText)
        pure (.unknown command.verb)

end Router

/-- The arguments that a command must have. -/
def requireArgs {σ : Type} (command : Command) (names : List String) :
    Handling σ (List String) :=
  match command.requireArgs names with
  | .ok args => pure args
  | .error usage => throw (.missingArguments usage)

end ChatRobots
