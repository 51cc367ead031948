/-
Module: ChatRobots.Config.Load
Purpose: Making the configuration out of a file, the environment and what the caller demands.
Main exports: ConfigOverrides, LoadOptions, Config.load
-/
import ChatRobots.Config.Key
import ChatRobots.Config.Patch

namespace ChatRobots

/-!
The configuration is made in layers: the defaults, the file over them, the environment over the
file, and over all of them what the caller demands.  Each setting has the value of the highest
layer that makes it.  Tokens are collected from the layers under their robots' names in lower
case; of two tokens for one robot the later one stays.

The file is the one that the caller names, or else the first of two usual places.  A file that is
not there makes no settings, unless the caller insists on one.
-/

/-- What the caller demands. -/
structure ConfigOverrides where
  databaseUrl : Option String := none
  logLevel : Option String := none
  webhookUrl : Option String := none
  serverPort : Option Word16 := none

structure LoadOptions where
  /-- The file to read instead of the usual ones. -/
  path : Option String := none
  /-- There must be a file. -/
  requireFile : Bool := false
  overrides : ConfigOverrides := {}

/-- Where the file usually is. -/
def usualConfigPaths : List String := ["relaybot.toml", "config/relaybot.toml"]

/-- The file to read, if it is there. -/
def configPath? (files : Files) : Option String → Option String
  | some path => if files.pathExists path then some path else none
  | none => usualConfigPaths.find? files.pathExists

/-- The settings that a file makes. -/
def readPatch (files : Files) (env : Environment) (path : String) :
    Except ConfigError ConfigPatch := do
  let text ← (files.readText path).mapError (ConfigError.unreadable path)
  let text ← (interpolate env text).mapError fun
    | .unset name => ConfigError.unsetVariable name
    | .unterminated => ConfigError.unterminatedName
  match ConfigPatch.ofText? text with
  | some patch => pure patch
  | none => throw (.malformed path)

namespace Environment

/-- The value of a setting that is a text. -/
def textOr (env : Environment) (key : ConfigKey) (value : String) : String :=
  match env.chosen? key with
  | some (_, text) => text
  | none => value

/-- The value of a setting that is a number. -/
def numberOr {bound : Nat} (env : Environment) (key : ConfigKey) (value : Fin bound) :
    Except ConfigError (Fin bound) :=
  match env.chosen? key with
  | some (name, text) =>
      match unsigned? bound text with
      | some number => .ok number
      | none => .error (.invalidVariable name text)
  | none => .ok value

/-- The value of the setting that is a format. -/
def formatOr (env : Environment) (value : LogFormat) : Except ConfigError LogFormat :=
  match env.chosen? .logFormat with
  | some (_, text) => LogFormat.ofText text
  | none => .ok value

/-- Make the settings of the environment, and leave the others as they are. -/
def apply (env : Environment) (config : Config) : Except ConfigError Config := do
  let maxConnections ← env.numberOr .maxConnections config.database.maxConnections
  let timeoutSecs ← env.numberOr .timeoutSecs config.database.timeoutSecs
  let port ← env.numberOr .port config.server.port
  let gracefulShutdownSecs ←
    env.numberOr .gracefulShutdownSecs config.server.gracefulShutdownSecs
  let format ← env.formatOr config.logging.format
  pure {
    database := {
      url := env.textOr .databaseUrl config.database.url
      maxConnections, timeoutSecs }
    slack := {
      webhookUrl := env.textOr .webhookUrl config.slack.webhookUrl
      teamDomain := ((env.chosen? .teamDomain).map (·.2)) <|> config.slack.teamDomain
      commandTokens := putTokens env.tokens config.slack.commandTokens }
    server := {
      bindAddress := env.textOr .bindAddress config.server.bindAddress
      port, gracefulShutdownSecs }
    logging := {
      level := env.textOr .logLevel config.logging.level
      format } }

end Environment

/-- Put in what the caller demands. -/
def ConfigOverrides.apply (overrides : ConfigOverrides) (config : Config) : Config where
  database := { config.database with url := overrides.databaseUrl.getD config.database.url }
  slack := { config.slack with
    webhookUrl := overrides.webhookUrl.getD config.slack.webhookUrl }
  server := { config.server with port := overrides.serverPort.getD config.server.port }
  logging := { config.logging with level := overrides.logLevel.getD config.logging.level }

/-- The defaults with the settings of the file, if there is one. -/
def Config.ofFile (files : Files) (env : Environment) (options : LoadOptions) :
    Except ConfigError Config :=
  match configPath? files options.path with
  | some path => (readPatch files env path).map (·.apply Config.defaults)
  | none =>
      if options.requireFile then
        .error (.missingFile (options.path.getD "relaybot.toml"))
      else .ok Config.defaults

/-- The configuration, if all rules are kept. -/
def Config.checked (config : Config) : Except ConfigError Config :=
  match config.broken? with
  | some rule => .error (.broken rule)
  | none => .ok config

/-- A configuration is accepted as it is, and only if every rule is kept. -/
theorem Config.checked_eq_ok {config accepted : Config} (h : config.checked = .ok accepted) :
    accepted = config ∧ ∀ rule ∈ config.rules, rule.2 = true := by
  unfold Config.checked at h
  split at h
  · simp at h
  · rename_i kept
    refine ⟨(Except.ok.inj h).symm, fun rule hrule => ?_⟩
    rw [Config.broken?, Option.map_eq_none_iff, List.find?_eq_none] at kept
    simpa using kept rule hrule

/-- The configuration in force. -/
def Config.load (files : Files) (env : Environment) (options : LoadOptions) :
    Except ConfigError Config := do
  let config ← Config.ofFile files env options
  let config ← env.apply config
  (options.overrides.apply config).checked

end ChatRobots
