/-
Module: ChatRobots.Log.Event
Purpose: The events that are logged, and the form in which they are written.
Main exports: Event, Event.level, Event.fields, Event.toJson
-/
import ChatRobots.Ingress.Form
import ChatRobots.Robot.Error
import ChatRobots.Json.Basic
import ChatRobots.Log.Level

namespace ChatRobots

/-!
Events are logged with a level, a name, the correlation id of the request they belong to, and
details of their own.  Events outside of any request have a fixed word in the place of the id.
-/

/-- Something that happened and is worth a line in the log. -/
inductive Event where
  /-- A robot was found for a request. -/
  | commandReceived (payload : Payload)
  /-- A slash command was refused. -/
  | commandRejected (error : IngressError)
  /-- No robot has the name that a slash command asked for. -/
  | unknownRobot (payload : Payload)
  /-- A robot starts to work on a command. -/
  | commandDispatched (payload : Payload) (robot verb : String)
  | commandFailed (payload : Payload) (robot : String) (error : RobotError)
  /-- A reply could not be delivered. -/
  | replyFailed (payload : Payload) (robot : String) (error : ReplyError)
  /-- A robot broke off in the middle of its work. -/
  | taskBroken (payload : Payload) (reason : String)
  | sessionFailed (channel : String) (error : StoreError)
  | bootstrapStarted
  | databaseConnected
  | migrationsApplied
  | robotsRegistered (keys : List String)
  | serverStarted (address : String) (robots : Nat)
  | serverStopping (graceSeconds : Nat)
deriving DecidableEq, Repr

namespace Event

def level : Event → LogLevel
  | commandRejected _ | commandFailed .. | replyFailed .. | sessionFailed .. => .warn
  | taskBroken .. => .error
  | commandReceived _ | unknownRobot _ | commandDispatched .. | bootstrapStarted
  | databaseConnected | migrationsApplied | robotsRegistered _ | serverStarted ..
  | serverStopping _ => .info

def name : Event → String
  | commandReceived _ => "ingress.slack.command_received"
  | commandRejected _ => "ingress.slack.command_rejected"
  | unknownRobot _ => "ingress.slack.unknown_robot"
  | commandDispatched .. => "robot.command.dispatched"
  | commandFailed .. => "robot.command.failed"
  | replyFailed .. => "robot.reply.failed"
  | taskBroken .. => "robot.task.panicked"
  | sessionFailed .. => "http.poker.session_failed"
  | bootstrapStarted => "system.bootstrap.start"
  | databaseConnected => "system.bootstrap.database_connected"
  | migrationsApplied => "system.bootstrap.migrations_applied"
  | robotsRegistered _ => "system.bootstrap.robots_registered"
  | serverStarted .. => "system.server.started"
  | serverStopping _ => "system.server.stopping"

/-- The correlation id of the request, or the word for no request. -/
def correlationId : Event → String
  | commandReceived payload | unknownRobot payload | commandDispatched payload ..
  | commandFailed payload .. | replyFailed payload .. | taskBroken payload _ =>
      payload.correlationId
  | commandRejected _ | sessionFailed .. => "unassigned"
  | bootstrapStarted | databaseConnected | migrationsApplied | robotsRegistered _
  | serverStarted .. => "bootstrap"
  | serverStopping _ => "shutdown"

/-- The details of the event. -/
def details : Event → List (String × Json)
  | commandReceived payload =>
      [("robot", .string payload.robot), ("channel", .string payload.channelName)]
  | commandRejected error => [("error", .string error.message)]
  | unknownRobot payload => [("robot", .string payload.robot)]
  | commandDispatched payload robot verb =>
      [("robot", .string robot), ("channel", .string payload.channelName), ("verb", .string verb)]
  | commandFailed payload robot error =>
      [("robot", .string robot), ("channel", .string payload.channelName),
        ("error", .string error.message)]
  | replyFailed payload robot error =>
      [("robot", .string robot), ("channel", .string payload.channelName),
        ("error", .string error.message)]
  | taskBroken payload reason =>
      [("robot", .string payload.robot), ("channel", .string payload.channelName),
        ("error", .string reason)]
  | sessionFailed channel error =>
      [("channel", .string channel), ("error", .string error.message)]
  | bootstrapStarted | databaseConnected | migrationsApplied => []
  | robotsRegistered keys => [("robots", .string (",".intercalate keys))]
  | serverStarted address robots =>
      [("bind_address", .string address), ("robots", .integer robots)]
  | serverStopping graceSeconds => [("grace_secs", .integer graceSeconds)]

/-- The event in words. -/
def message : Event → String
  | commandReceived _ => "spawning robot task"
  | commandRejected _ => "rejected slash command request"
  | unknownRobot _ => "no robot registered for slash command"
  | commandDispatched .. => "dispatching robot command"
  | commandFailed .. => "robot command failed"
  | replyFailed .. => "failed to deliver robot reply"
  | taskBroken .. => "robot task did not complete"
  | sessionFailed .. => "failed to load poker session"
  | bootstrapStarted => "starting application bootstrap"
  | databaseConnected => "database connection established"
  | migrationsApplied => "database migrations applied"
  | robotsRegistered _ => "robot registry built"
  | serverStarted .. => "relaybot-server listening"
  | serverStopping _ => "relaybot-server stopping"

/-- All that is written about the event except its level. -/
def fields (event : Event) : List (String × Json) :=
  [("message", .string event.message), ("event_name", .string event.name),
    ("correlation_id", .string event.correlationId)] ++ event.details

end Event

end ChatRobots
