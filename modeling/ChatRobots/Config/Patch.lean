/-
Module: ChatRobots.Config.Patch
Purpose: The settings that a file makes.
Main exports: ConfigPatch, ConfigPatch.ofToml?, ConfigPatch.apply
-/
import ChatRobots.Config.Basic
import ChatRobots.Number.Unsigned
import ChatRobots.Toml.Document

namespace ChatRobots

/-!
A file makes some of the settings and says nothing of the others; names that it need not know it
may use as it likes.  A group of settings is a table.  An array stands for the table that has its
items under the group's names, as far as there are names, and must have an item for each.  A
moment stands for the table with its text under a name of its own, so as a group it makes no
settings.

Texts are strings, numbers are integers in their range.  The format of the log is its name, or a
table with the name as its only key and nothing in it.
-/

structure DatabasePatch where
  url : Option String := none
  maxConnections : Option Word32 := none
  timeoutSecs : Option Word64 := none

structure SlackPatch where
  webhookUrl : Option String := none
  teamDomain : Option String := none
  commandTokens : Option (Dictionary String) := none

structure ServerPatch where
  bindAddress : Option String := none
  port : Option Word16 := none
  gracefulShutdownSecs : Option Word64 := none

structure LoggingPatch where
  level : Option String := none
  format : Option LogFormat := none

structure ConfigPatch where
  database : DatabasePatch := {}
  slack : SlackPatch := {}
  server : ServerPatch := {}
  logging : LoggingPatch := {}

namespace Toml.Value

def text? : Value → Option String
  | string text => some text
  | _ => none

/-- An integer from zero up to the bound. -/
def below? (bound : Nat) : Value → Option (Fin bound)
  | integer (.ofNat number) => bounded? bound number
  | _ => none

/-- The name under which a moment has its text. -/
def momentKey : String := "$__toml_private_datetime"

/-- The entries of a group of settings with the names given. -/
def group? (names : List String) (value : Value) : Option Entries :=
  match value, value.entries?, value.items? with
  | moment m, _, _ => some [(momentKey, string m.toText)]
  | _, some entries, _ => some entries
  | _, _, some items => if names.length ≤ items.length then some (names.zip items) else none
  | _, _, _ => none

/-- A dictionary of texts. -/
def texts? (value : Value) : Option (Dictionary String) := do
  let entries ← match value with
    | moment m => some [(momentKey, string m.toText)]
    | value => value.entries?
  let texts ← entries.mapM fun (key, value) => value.text?.map ((key, ·))
  pure (Dictionary.ofList texts)

/-- The table or array has nothing in it. -/
def isVoid (value : Value) : Bool :=
  match value.entries?, value.items? with
  | some entries, _ => entries.isEmpty
  | _, some items => items.isEmpty
  | _, _ => false

def logFormat? (value : Value) : Option LogFormat :=
  match value, value.entries? with
  | string name, _ => LogFormat.ofName? name
  | _, some [(name, content)] => if content.isVoid then LogFormat.ofName? name else none
  | _, _ => none

end Toml.Value

/-- The value under a name, if there is any; it must be one that can be read. -/
def Toml.readEntry? {α : Type} (entries : Toml.Entries) (name : String)
    (read? : Toml.Value → Option α) : Option (Option α) :=
  match entries.lookup name with
  | none => some none
  | some value => (read? value).map some

namespace DatabasePatch

def ofToml? (value : Toml.Value) : Option DatabasePatch := do
  let entries ← value.group? ["url", "max_connections", "timeout_secs"]
  pure {
    url := ← Toml.readEntry? entries "url" (·.text?)
    maxConnections := ← Toml.readEntry? entries "max_connections" (·.below? _)
    timeoutSecs := ← Toml.readEntry? entries "timeout_secs" (·.below? _) }

def apply (patch : DatabasePatch) (config : DatabaseConfig) : DatabaseConfig where
  url := patch.url.getD config.url
  maxConnections := patch.maxConnections.getD config.maxConnections
  timeoutSecs := patch.timeoutSecs.getD config.timeoutSecs

end DatabasePatch

namespace SlackPatch

def ofToml? (value : Toml.Value) : Option SlackPatch := do
  let entries ← value.group? ["webhook_url", "team_domain", "command_tokens"]
  pure {
    webhookUrl := ← Toml.readEntry? entries "webhook_url" (·.text?)
    teamDomain := ← Toml.readEntry? entries "team_domain" (·.text?)
    commandTokens := ← Toml.readEntry? entries "command_tokens" (·.texts?) }

end SlackPatch

/-- Put tokens in one after another, each under its robot's name in lower case. -/
def putTokens (tokens : List (String × String)) (known : Dictionary String) : Dictionary String :=
  known.putAll (tokens.map fun (robot, token) => (Text.asciiLowercase robot, token))

namespace SlackPatch

def apply (patch : SlackPatch) (config : SlackConfig) : SlackConfig where
  webhookUrl := patch.webhookUrl.getD config.webhookUrl
  teamDomain := patch.teamDomain <|> config.teamDomain
  commandTokens := putTokens (patch.commandTokens.getD {}).entries config.commandTokens

end SlackPatch

namespace ServerPatch

def ofToml? (value : Toml.Value) : Option ServerPatch := do
  let entries ← value.group? ["bind_address", "port", "graceful_shutdown_secs"]
  pure {
    bindAddress := ← Toml.readEntry? entries "bind_address" (·.text?)
    port := ← Toml.readEntry? entries "port" (·.below? _)
    gracefulShutdownSecs := ← Toml.readEntry? entries "graceful_shutdown_secs" (·.below? _) }

def apply (patch : ServerPatch) (config : ServerConfig) : ServerConfig where
  bindAddress := patch.bindAddress.getD config.bindAddress
  port := patch.port.getD config.port
  gracefulShutdownSecs := patch.gracefulShutdownSecs.getD config.gracefulShutdownSecs

end ServerPatch

namespace LoggingPatch

def ofToml? (value : Toml.Value) : Option LoggingPatch := do
  let entries ← value.group? ["level", "format"]
  pure {
    level := ← Toml.readEntry? entries "level" (·.text?)
    format := ← Toml.readEntry? entries "format" (·.logFormat?) }

def apply (patch : LoggingPatch) (config : LoggingConfig) : LoggingConfig where
  level := patch.level.getD config.level
  format := patch.format.getD config.format

end LoggingPatch

namespace ConfigPatch

/-- The settings that a document makes. -/
def ofToml? (document : Toml.Value) : Option ConfigPatch := do
  let entries ← document.entries?
  pure {
    database := (← Toml.readEntry? entries "database" DatabasePatch.ofToml?).getD {}
    slack := (← Toml.readEntry? entries "slack" SlackPatch.ofToml?).getD {}
    server := (← Toml.readEntry? entries "server" ServerPatch.ofToml?).getD {}
    logging := (← Toml.readEntry? entries "logging" LoggingPatch.ofToml?).getD {} }

/-- The settings that a text makes. -/
def ofText? (text : String) : Option ConfigPatch :=
  (Toml.parse? text).bind ofToml?

/-- Make the settings, and leave the others as they are. -/
def apply (patch : ConfigPatch) (config : Config) : Config where
  database := patch.database.apply config.database
  slack := patch.slack.apply config.slack
  server := patch.server.apply config.server
  logging := patch.logging.apply config.logging

end ConfigPatch

end ChatRobots
