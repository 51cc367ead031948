/-
Module: ChatRobots.Robot.Messenger
Purpose: The voice of a robot.
Main exports: Messenger, Messenger.send, Messenger.sendError, say
-/
import ChatRobots.Robot.Scene

namespace ChatRobots

/-!
A robot speaks under its own name and icon.  It answers a request in the channel that the request
came from; outside of any request it posts to a channel it is given, under the team domain it was
set up with.
-/

/-- A robot's identity, and its team domain outside of requests. -/
structure Messenger where
  identity : BotIdentity
  teamDomain : Option String := none
deriving DecidableEq, Repr

namespace Messenger

variable {σ : Type} (messenger : Messenger)

def sendWithAttachments (payload : Payload) (text : String) (attachments : List Attachment) :
    Chat σ (Except ReplyError Unit) :=
  deliver ⟨payload.teamDomain, payload.channelId, messenger.identity, text, attachments⟩

def send (payload : Payload) (text : String) : Chat σ (Except ReplyError Unit) :=
  messenger.sendWithAttachments payload text []

/-- Answer with a mention of the user who asked. -/
def directSend (payload : Payload) (text : String) : Chat σ (Except ReplyError Unit) :=
  messenger.send payload ("@" ++ payload.userName ++ ": " ++ text)

/-- Tell that the command failed, and why. -/
def sendError (payload : Payload) (reason : String) : Chat σ (Except ReplyError Unit) :=
  messenger.send payload
    ("Error running " ++ messenger.identity.name ++ " command: " ++ reason)

/-- Post outside of any request. -/
def sendToChannel (channel text : String) : Chat σ (Except ReplyError Unit) :=
  deliver ⟨messenger.teamDomain.getD "", channel, messenger.identity, text, []⟩

/-- Answer as part of handling a command, which fails when the answer is not delivered. -/
def say (payload : Payload) (text : String) : Handling σ Unit :=
  ExceptT.mk ((Except.mapError .reply) <$> messenger.send payload text)

end Messenger

end ChatRobots
