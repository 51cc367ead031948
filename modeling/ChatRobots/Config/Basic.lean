/-
Module: ChatRobots.Config.Basic
Purpose: The configuration, and the rules that it has to keep.
Main exports: Config, ConfigRule, Config.broken?, ConfigError
-/
import ChatRobots.Dictionary
import ChatRobots.Files
import ChatRobots.Log.Level
import ChatRobots.Number.Unsigned
import ChatRobots.Text.Blank
import ChatRobots.Text.Quoted

namespace ChatRobots

/-!
The configuration says where the database is, where replies are posted and which tokens slash
commands bring along, where the server listens, and what is logged.  Without any setting it lacks
one thing: the address for the replies has no default.

A configuration is used only when it keeps all rules.  The rules are gone through in order, and
the first that is broken is the one reported.
-/

/-- How lines of the log are written. -/
inductive LogFormat where
  | compact
  | pretty
  | json
deriving DecidableEq, Repr

namespace LogFormat

def name : LogFormat → String
  | compact => "compact"
  | pretty => "pretty"
  | json => "json"

/-- The name with a capital. -/
def title : LogFormat → String
  | compact => "Compact"
  | pretty => "Pretty"
  | json => "Json"

def ofName? : String → Option LogFormat
  | "compact" => some compact
  | "pretty" => some pretty
  | "json" => some json
  | _ => none

end LogFormat

structure DatabaseConfig where
  url : String := "sqlite://relaybot.db"
  maxConnections : Word32 := 5
  timeoutSecs : Word64 := 30
deriving DecidableEq

structure SlackConfig where
  /-- Where replies are posted. -/
  webhookUrl : String := ""
  teamDomain : Option String := none
  /-- The token of each robot's slash command, under the robot's key. -/
  commandTokens : Dictionary String := {}

structure ServerConfig where
  bindAddress : String := "127.0.0.1"
  port : Word16 := 8080
  gracefulShutdownSecs : Word64 := 15
deriving DecidableEq

structure LoggingConfig where
  level : String := "info"
  format : LogFormat := .compact
deriving DecidableEq

structure Config where
  database : DatabaseConfig := {}
  slack : SlackConfig := {}
  server : ServerConfig := {}
  logging : LoggingConfig := {}

/-- A rule that a configuration can break. -/
inductive ConfigRule where
  | databaseUrl
  | someConnections
  | timeoutRange
  | webhookUrlGiven
  | webhookUrlScheme
  | tokenGiven (robot : String)
  | portGiven
  | gracePeriodGiven
  | levelKnown
  /-- The text is no format for the log. -/
  | formatKnown (text : String)
deriving DecidableEq, Repr

namespace ConfigRule

/-- What the rule demands. -/
def message : ConfigRule → String
  | databaseUrl =>
      "database.url must be a sqlite URL (`sqlite://...`, `sqlite::...`, or `:memory:`)"
  | someConnections => "database.max_connections must be greater than zero"
  | timeoutRange => "database.timeout_secs must be in range 1..=300"
  | webhookUrlGiven =>
      "slack.webhook_url is required. Create an Incoming Webhook at " ++
        "https://api.slack.com/apps > Your App > Incoming Webhooks"
  | webhookUrlScheme => "slack.webhook_url must start with http:// or https://"
  | tokenGiven robot => "slack.command_tokens." ++ robot ++ " must not be empty"
  | portGiven => "server.port must be greater than zero"
  | gracePeriodGiven => "server.graceful_shutdown_secs must be greater than zero"
  | levelKnown => "logging.level must be one of trace|debug|info|warn|error"
  | formatKnown text =>
      "unsupported log format `" ++ text ++ "` (expected compact|pretty|json)"

end ConfigRule

/-- The text, blanks at its ends aside, begins with the lead. -/
def leadsWith (lead text : String) : Bool :=
  (Text.afterLead? lead.toList (Text.trim text.toList)).isSome

/-- The text has one of the forms of a database's address. -/
def isDatabaseUrl (url : String) : Bool :=
  leadsWith "sqlite://" url || leadsWith "sqlite::" url ||
    Text.trim url.toList == ":memory:".toList

namespace Config

/-- The configuration without any setting. -/
def defaults : Config := {}

/-- The rules in order, each with whether the configuration keeps it. -/
def rules (config : Config) : List (ConfigRule × Bool) :=
  [(.databaseUrl, isDatabaseUrl config.database.url),
    (.someConnections, config.database.maxConnections != 0),
    (.timeoutRange, config.database.timeoutSecs != 0 && config.database.timeoutSecs ≤ 300),
    (.webhookUrlGiven, !Text.isBlankText config.slack.webhookUrl),
    (.webhookUrlScheme, leadsWith "http://" config.slack.webhookUrl
      || leadsWith "https://" config.slack.webhookUrl)]
  ++ config.slack.commandTokens.entries.map (fun (robot, token) =>
    (.tokenGiven robot, !Text.isBlankText token))
  ++ [(.portGiven, config.server.port != 0),
    (.gracePeriodGiven, config.server.gracefulShutdownSecs != 0),
    (.levelKnown,
      (LogLevel.ofText? (String.ofList (Text.trim config.logging.level.toList))).isSome)]

/-- The first rule that the configuration breaks. -/
def broken? (config : Config) : Option ConfigRule :=
  (config.rules.find? fun rule => !rule.2).map (·.1)

/-- The least urgent level that is logged; a level with blanks around it counts for nothing. -/
def logThreshold (config : Config) : LogLevel :=
  (LogLevel.ofText? config.logging.level).getD .info

/-- The configuration in words, with its secrets left out. -/
def describe (config : Config) : String :=
  let hidden := "SecretBox<str>([REDACTED])"
  let team := match config.slack.teamDomain with
    | some team => "Some(" ++ Text.quoted team ++ ")"
    | none => "None"
  let tokens := config.slack.commandTokens.keys.map fun robot =>
    Text.quoted robot ++ ": " ++ hidden
  let block (name : String) (fields : List (String × String)) : String :=
    name ++ " \x7b " ++ ", ".intercalate (fields.map fun (name, value) => name ++ ": " ++ value)
      ++ " \x7d"
  block "AppConfig"
    [("database", block "DatabaseConfig"
      [("url", Text.quoted config.database.url),
        ("max_connections", toString config.database.maxConnections.val),
        ("timeout_secs", toString config.database.timeoutSecs.val)]),
    ("slack", block "SlackConfig"
      [("webhook_url", hidden), ("team_domain", team),
        ("command_tokens", "\x7b" ++ ", ".intercalate tokens ++ "\x7d")]),
    ("server", block "ServerConfig"
      [("bind_address", Text.quoted config.server.bindAddress),
        ("port", toString config.server.port.val),
        ("graceful_shutdown_secs", toString config.server.gracefulShutdownSecs.val)]),
    ("logging", block "LoggingConfig"
      [("level", Text.quoted config.logging.level), ("format", config.logging.format.title)])]

end Config

/-- Why there is no configuration. -/
inductive ConfigError where
  /-- The file is there and cannot be read. -/
  | unreadable (path : String) (cause : ReadError)
  /-- The file is not written as it should be. -/
  | malformed (path : String)
  | missingFile (path : String)
  /-- The file names a variable that is not set. -/
  | unsetVariable (name : String)
  /-- The file opens the name of a variable and does not close it. -/
  | unterminatedName
  /-- A variable holds something that is no value for its setting. -/
  | invalidVariable (name value : String)
  | broken (rule : ConfigRule)
deriving DecidableEq, Repr

namespace ConfigError

def message : ConfigError → String
  | unreadable path cause =>
      "could not read config file `" ++ path ++ "`: " ++ cause.message
  | malformed path => "could not parse config file `" ++ path ++ "`"
  | missingFile path => "required config file was not found: `" ++ path ++ "`"
  | unsetVariable name => "environment variable interpolation failed for `" ++ name ++ "`"
  | unterminatedName => "unterminated environment interpolation expression"
  | invalidVariable name value =>
      "invalid environment override for `" ++ name ++ "`: `" ++ value ++ "`"
  | broken rule => "configuration validation failed: " ++ rule.message

end ConfigError

namespace LogFormat

/-- The format that a text names, blanks around it and the case of its letters aside. -/
def ofText (text : String) : Except ConfigError LogFormat :=
  let name := Text.asciiLowercase (String.ofList (Text.trim text.toList))
  match ofName? name with
  | some format => .ok format
  | none => .error (.broken (.formatKnown name))

end LogFormat

end ChatRobots
