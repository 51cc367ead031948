/-
Module: ChatRobots.Config.Report
Purpose: The configuration in force, and which layer each of its values is said to come from.
Main exports: ValueSource, Config.values, sourceOf, Config.report, redactUrl
-/
import ChatRobots.Config.Load

namespace ChatRobots

/-!
The report has a line for every setting with its value and its source.  A value is said to come
from a variable as soon as one of the setting's variables is there, blank or not; or else from the
file, if the file, read as it stands and without values inserted, has something at the setting's
place; or else it is said to be the default.

What must not be seen is left out: tokens altogether, and of the address for the replies all but
the scheme and what stands up to the first slash after it.
-/

/-- Where a value is said to come from. -/
inductive ValueSource where
  | environment (name : String)
  | file (path : String)
  | byDefault
deriving DecidableEq, Repr

namespace ValueSource

def message : ValueSource → String
  | environment name => "env (" ++ name ++ ")"
  | file path => "file (" ++ path ++ ")"
  | byDefault => "default"

end ValueSource

/-- An address with everything after its host left out. -/
def redactUrl (url : String) : String :=
  let text := Text.trim url.toList
  if text.isEmpty then "<empty>"
  else match Text.cutAtMark? "://".toList text with
    | some (scheme, rest) =>
        String.ofList scheme ++ "://" ++ String.ofList (rest.takeWhile (· != '/')) ++ "/***"
    | none => "<redacted>"

/-- The settings and their values, as far as they may be seen. -/
def Config.values (config : Config) : List (ConfigKey × String) :=
  [(.databaseUrl, config.database.url),
    (.maxConnections, toString config.database.maxConnections.val),
    (.timeoutSecs, toString config.database.timeoutSecs.val),
    (.webhookUrl, redactUrl config.slack.webhookUrl),
    (.teamDomain, config.slack.teamDomain.getD "<unset>")]
  ++ config.slack.commandTokens.keys.map (fun robot => (.commandToken robot, "<redacted>"))
  ++ [(.bindAddress, config.server.bindAddress),
    (.port, toString config.server.port.val),
    (.gracefulShutdownSecs, toString config.server.gracefulShutdownSecs.val),
    (.logLevel, config.logging.level),
    (.logFormat, config.logging.format.title)]

/-- A file with its path, read as a document if it is one. -/
structure ConfigFile where
  path : String
  document : Option Toml.Value

/-- The file from which the configuration was read. -/
def configFile? (files : Files) : Option ConfigFile :=
  (configPath? files none).map fun path =>
    ⟨path, (files.readText path).toOption.bind Toml.parse?⟩

/-- The document has something at the setting's place, each dot of the name leading deeper. -/
def ConfigFile.mentions (file : ConfigFile) (key : ConfigKey) : Bool :=
  match file.document with
  | some document =>
      (document.at? ((Text.pieces '.' key.name.toList).map String.ofList)).isSome
  | none => false

/-- Where the value of a setting is said to come from. -/
def sourceOf (env : Environment) (file : Option ConfigFile) (key : ConfigKey) : ValueSource :=
  match key.variableNames.find? fun name => (env.value? name).isSome with
  | some name => .environment name
  | none =>
      match file with
      | some file => if file.mentions key then .file file.path else .byDefault
      | none => .byDefault

/-- The report, a line for each setting. -/
def Config.report (config : Config) (env : Environment) (file : Option ConfigFile) : String :=
  "\n".intercalate <|
    "effective config (source precedence: env > file > default):"
      :: config.values.map fun (key, value) =>
        "- " ++ key.name ++ " = " ++ value ++ " (source: " ++ (sourceOf env file key).message
          ++ ")"

end ChatRobots
