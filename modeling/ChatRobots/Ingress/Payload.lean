/-
Module: ChatRobots.Ingress.Payload
Purpose: A request to a robot, however it arrived.
Main exports: Payload
-/

namespace ChatRobots

/-!
Slash commands and trigger words reach the robots in one form.  The payload names the robot and
holds the text for it, and says who asked where; its correlation id ties log events and replies
to the request.
-/

/-- A request to a robot. -/
structure Payload where
  teamDomain : String
  channelId : String
  channelName : String
  userId : String
  userName : String
  robot : String
  text : String
  correlationId : String
deriving DecidableEq, Repr

end ChatRobots
