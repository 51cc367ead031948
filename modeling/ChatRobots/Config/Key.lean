/-
Module: ChatRobots.Config.Key
Purpose: The names of the settings, in files and in the environment.
Main exports: ConfigKey, ConfigKey.name, ConfigKey.variableNames
-/
import ChatRobots.Config.Environment
import ChatRobots.Text.Lowercase
import ChatRobots.Text.Split

namespace ChatRobots

/-!
A setting has a dotted name, which is its place in a file, and variables that set it in the
environment, the first of them before the others.  The tokens of the slash commands are settings
as well, one for each robot; the variable of a token has the robot's name in capitals.
-/

/-- A setting. -/
inductive ConfigKey where
  | databaseUrl
  | maxConnections
  | timeoutSecs
  | webhookUrl
  | teamDomain
  | commandToken (robot : String)
  | bindAddress
  | port
  | gracefulShutdownSecs
  | logLevel
  | logFormat
deriving DecidableEq, Repr

/-- What the names of the variables for tokens begin with. -/
def tokenVariableLead : String := "RELAYBOT_SLACK_COMMAND_TOKEN_"

namespace ConfigKey

/-- The dotted name. -/
def name : ConfigKey → String
  | databaseUrl => "database.url"
  | maxConnections => "database.max_connections"
  | timeoutSecs => "database.timeout_secs"
  | webhookUrl => "slack.webhook_url"
  | teamDomain => "slack.team_domain"
  | commandToken robot => "slack.command_tokens." ++ robot
  | bindAddress => "server.bind_address"
  | port => "server.port"
  | gracefulShutdownSecs => "server.graceful_shutdown_secs"
  | logLevel => "logging.level"
  | logFormat => "logging.format"

/-- The variables that set it. -/
def variableNames : ConfigKey → List String
  | databaseUrl => ["RELAYBOT_DATABASE_URL"]
  | maxConnections => ["RELAYBOT_DATABASE_MAX_CONNECTIONS"]
  | timeoutSecs => ["RELAYBOT_DATABASE_TIMEOUT_SECS"]
  | webhookUrl => ["RELAYBOT_SLACK_WEBHOOK_URL"]
  | teamDomain => ["RELAYBOT_SLACK_TEAM_DOMAIN"]
  | commandToken robot => [tokenVariableLead ++ Text.asciiUppercase robot]
  | bindAddress => ["RELAYBOT_SERVER_BIND_ADDRESS"]
  | port => ["RELAYBOT_SERVER_PORT"]
  | gracefulShutdownSecs => ["RELAYBOT_SERVER_GRACEFUL_SHUTDOWN_SECS"]
  | logLevel => ["RELAYBOT_LOGGING_LEVEL", "RELAYBOT_LOG_LEVEL"]
  | logFormat => ["RELAYBOT_LOGGING_FORMAT", "RELAYBOT_LOG_FORMAT"]

end ConfigKey

namespace Environment

/-- The variable that sets a setting, with its value: the first that is not blank. -/
def chosen? (env : Environment) (key : ConfigKey) : Option (String × String) :=
  key.variableNames.findSome? fun name => (env.setting? name).map ((name, ·))

/-- The robots and tokens of the variables for tokens, in the order of the variables. -/
def tokens (env : Environment) : List (String × String) :=
  env.bindings.filterMap fun (name, value) =>
    match Text.afterLead? tokenVariableLead.toList name.toList with
    | some (c :: robot) =>
        if Text.isBlankText value then none
        else some (String.ofList (c :: robot), value)
    | _ => none

end Environment

end ChatRobots
