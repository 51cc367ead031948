/-
Module: ChatRobots.Server.Run
Purpose: The server from its start to its end, without the requests in between.
Main exports: ServerRun, ServerRun.ofFiles, errorReport
-/
import ChatRobots.Server.Bootstrap

namespace ChatRobots

/-!
A server that has started listens until it is interrupted, and ends in good order.  One that
cannot start says why and ends with the code for failure: the error comes first and below it what
led to it, numbered when there is more than one cause.

The log has the events that its threshold admits; it is set up once the configuration is there.
-/

/-- How a server ran. -/
structure ServerRun where
  exitCode : Nat
  /-- What was logged. -/
  events : List Event
  /-- How the lines of the log are written. -/
  format : LogFormat
  /-- What it says about its failure. -/
  errorText : String

/-- An error and what led to it. -/
def errorReport (message : String) (causes : List String) : String :=
  let numbered := causes.zipIdx.map fun (cause, index) =>
    "    " ++ toString index ++ ": " ++ cause ++ "\n"
  "Error: " ++ message ++ "\n" ++ match causes with
    | [] => ""
    | [cause] => "\nCaused by:\n    " ++ cause ++ "\n"
    | _ => "\nCaused by:\n" ++ String.join numbered

namespace ServerRun

/-- A server that could not start. -/
def failed (error : BootstrapError) (events : List Event) (format : LogFormat) : ServerRun :=
  ⟨1, events, format, errorReport error.message error.causes⟩

/-- Where a server listens. -/
def addressOf (config : ServerConfig) : String :=
  config.bindAddress ++ ":" ++ toString config.port.val

/-- Start a server and, when it listens, interrupt it. -/
def ofFiles (files : Files) (env : Environment) : ServerRun :=
  match Config.load files env {} with
  | .error error => failed (.config error) [] .compact
  | .ok config =>
      let admitted (events : List Event) : List Event :=
        events.filter fun event => config.logThreshold.admits event.level
      let startup := bootstrapWith files config
      match startup.outcome with
      | .error error => failed error (admitted startup.events) config.logging.format
      | .ok application =>
          ⟨0, admitted (startup.events ++
            [.serverStarted (addressOf config.server) application.robots.length,
              .serverStopping config.server.gracefulShutdownSecs.val]),
            config.logging.format, ""⟩

end ServerRun

end ChatRobots
