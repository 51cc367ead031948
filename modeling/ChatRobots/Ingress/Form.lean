/-
Module: ChatRobots.Ingress.Form
Purpose: The two forms in which requests arrive, and what each of them asks for.
Main exports: Sender, SlashCommand.accept, TriggerWord.toPayload, IngressError
-/
import ChatRobots.Dictionary
import ChatRobots.Ingress.Payload
import ChatRobots.Text.Blank
import ChatRobots.Text.Split
import ChatRobots.Text.Lowercase

namespace ChatRobots

/-!
A slash command names the robot in the command and has the text apart.  It carries a token, and
where one is configured for the robot, under its name in lower case, the two must agree.

A message with a trigger word has all in one text: the trigger word, which is taken off when the
text begins with it, the robot up to the first space, and the text for the robot.  It is never
refused, not even without a robot.
-/

/-- Why a slash command is refused. -/
inductive IngressError where
  | missingCommand
  | missingToken
  | tokenMismatch (robot : String)
deriving DecidableEq, Repr

namespace IngressError

def message : IngressError → String
  | missingCommand => "request carried no command"
  | missingToken => "request carried no token"
  | tokenMismatch robot => "token does not match the one configured for `" ++ robot ++ "`"

end IngressError

/-- Who sends a request, and from where. -/
structure Sender where
  token : String
  teamDomain : String
  channelId : String
  channelName : String
  userId : String
  userName : String
deriving DecidableEq, Repr

namespace Sender

/-- The sender's request to a robot. -/
def payload (sender : Sender) (robot text correlationId : String) : Payload :=
  ⟨sender.teamDomain, sender.channelId, sender.channelName, sender.userId, sender.userName,
    robot, text, correlationId⟩

end Sender

/-- The form of a slash command. -/
structure SlashCommand where
  sender : Sender
  command : String
  text : String
deriving DecidableEq, Repr

namespace SlashCommand

/-- The robot that a command names: the command without blanks at its ends and slashes before. -/
def robotOf (command : String) : String :=
  String.ofList (Text.dropLeading '/' (Text.trim command.toList))

/-- Accept the command as a request, unless it names no robot or its token will not do. -/
def accept (tokens : Dictionary String) (correlationId : String) (form : SlashCommand) :
    Except IngressError Payload :=
  let robot := robotOf form.command
  let text := String.ofList (Text.trim form.text.toList)
  let payload := form.sender.payload robot text correlationId
  if robot = "" then .error .missingCommand
  else if form.sender.token = "" then .error .missingToken
  else match tokens.find? (String.ofList (Text.lowercase robot.toList)) with
    | none => .ok payload
    | some expected =>
        if expected = form.sender.token then .ok payload else .error (.tokenMismatch robot)

end SlashCommand

/-- The form of a message with a trigger word. -/
structure TriggerWord where
  sender : Sender
  text : String
  triggerWord : String
deriving DecidableEq, Repr

namespace TriggerWord

/-- What the message asks for: a robot and the text for it. -/
def request (text triggerWord : String) : String × String :=
  let text := Text.trim text.toList
  let text := Text.trim ((Text.afterLead? triggerWord.toList text).getD text)
  match Text.cut? ' ' text with
  | none => (String.ofList text, "")
  | some (robot, rest) => (String.ofList robot, String.ofList (Text.trim rest))

/-- The message as a request. -/
def toPayload (correlationId : String) (form : TriggerWord) : Payload :=
  let (robot, text) := request form.text form.triggerWord
  form.sender.payload robot text correlationId

end TriggerWord

end ChatRobots
