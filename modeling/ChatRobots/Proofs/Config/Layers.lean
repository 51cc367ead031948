/-
Module: ChatRobots.Proofs.Config.Layers
Purpose: What each layer makes of a setting, and the configuration that comes of them.
Main exports: Config.at, ConfigPatch.at?, ConfigKey.read?, Environment.taken?, FileLayer,
  Config.load_eq_ok, Environment.at_apply, ConfigPatch.at_apply, Config.at_eq_of_load
-/
import ChatRobots.Config.Load
import ChatRobots.Proofs.Action
import ChatRobots.Proofs.Dictionary

namespace ChatRobots

/-!
The configuration is a record, the file makes a record of options out of it, and the environment
goes through its variables.  All three speak of the same settings, so each is read here setting by
setting: what the configuration holds, what the file says, and which variable the environment
takes.  A layer then comes to one equation for all settings: what it has is in force, and what it
has not is left to the layer below.

Tokens fit in because a dictionary can be read at a name as well.  Several names of one layer may
mean one robot; the last of them is the one that counts.
-/

/-- The last of the tokens whose robot has this name, the case of its letters aside. -/
def lastToken? (tokens : List (String × String)) (robot : String) : Option (String × String) :=
  tokens.reverse.find? fun entry => Text.asciiLowercase entry.1 == robot

theorem lookup_map_eq_find? (tokens : List (String × String)) (rename : String → String)
    (robot : String) :
    (tokens.map fun entry => (rename entry.1, entry.2)).lookup robot =
      (tokens.find? fun entry => rename entry.1 == robot).map (·.2) := by
  induction tokens with
  | nil => rfl
  | cons entry rest ih =>
    simp only [List.map_cons, Dictionary.lookup_cons_eq, List.find?_cons, ih]
    by_cases same : robot = rename entry.1
    · simp [same]
    · have differs : (rename entry.1 == robot) = false := beq_false_of_ne (Ne.symm same)
      simp [same, differs]

theorem find?_putTokens (tokens : List (String × String)) (known : Dictionary String)
    (robot : String) :
    (putTokens tokens known).find? robot =
      ((lastToken? tokens robot).map (·.2)).or (known.find? robot) := by
  rw [putTokens, Dictionary.find?_putAll, ← List.map_reverse]
  exact congrArg (·.or (known.find? robot))
    (lookup_map_eq_find? tokens.reverse Text.asciiLowercase robot)

namespace ConfigKey

/-- The values that a setting can have. -/
def Value : ConfigKey → Type
  | maxConnections => Word32
  | timeoutSecs => Word64
  | port => Word16
  | gracefulShutdownSecs => Word64
  | logFormat => LogFormat
  | databaseUrl | webhookUrl | teamDomain | commandToken _ | bindAddress | logLevel => String

/-- The value that a variable's text stands for. -/
def read? : (key : ConfigKey) → String → Option key.Value
  | maxConnections, text => unsigned? _ text
  | timeoutSecs, text => unsigned? _ text
  | port, text => unsigned? _ text
  | gracefulShutdownSecs, text => unsigned? _ text
  | logFormat, text => (LogFormat.ofText text).toOption
  | databaseUrl, text | webhookUrl, text | teamDomain, text | commandToken _, text
  | bindAddress, text | logLevel, text => some text

end ConfigKey

/-- What the configuration holds; only the team and the tokens can be missing. -/
def Config.at (config : Config) : (key : ConfigKey) → Option key.Value
  | .databaseUrl => some config.database.url
  | .maxConnections => some config.database.maxConnections
  | .timeoutSecs => some config.database.timeoutSecs
  | .webhookUrl => some config.slack.webhookUrl
  | .teamDomain => config.slack.teamDomain
  | .commandToken robot => config.slack.commandTokens.find? robot
  | .bindAddress => some config.server.bindAddress
  | .port => some config.server.port
  | .gracefulShutdownSecs => some config.server.gracefulShutdownSecs
  | .logLevel => some config.logging.level
  | .logFormat => some config.logging.format

/-- What the file says. -/
def ConfigPatch.at? (patch : ConfigPatch) : (key : ConfigKey) → Option key.Value
  | .databaseUrl => patch.database.url
  | .maxConnections => patch.database.maxConnections
  | .timeoutSecs => patch.database.timeoutSecs
  | .webhookUrl => patch.slack.webhookUrl
  | .teamDomain => patch.slack.teamDomain
  | .commandToken robot =>
      (lastToken? (patch.slack.commandTokens.getD {}).entries robot).map (·.2)
  | .bindAddress => patch.server.bindAddress
  | .port => patch.server.port
  | .gracefulShutdownSecs => patch.server.gracefulShutdownSecs
  | .logLevel => patch.logging.level
  | .logFormat => patch.logging.format

/-- What the caller demands for a setting. -/
def ConfigOverrides.at? (overrides : ConfigOverrides) : (key : ConfigKey) → Option key.Value
  | .databaseUrl => overrides.databaseUrl
  | .webhookUrl => overrides.webhookUrl
  | .port => overrides.serverPort
  | .logLevel => overrides.logLevel
  | .maxConnections | .timeoutSecs | .teamDomain | .commandToken _ | .bindAddress
  | .gracefulShutdownSecs | .logFormat => none

/-- The variable that the environment takes for a setting, and its text. -/
def Environment.taken? (env : Environment) : ConfigKey → Option (String × String)
  | .commandToken robot =>
      (lastToken? env.tokens robot).map fun entry => (tokenVariableLead ++ entry.1, entry.2)
  | key => env.chosen? key

/-- The file over what is below it. -/
theorem ConfigPatch.at_apply (patch : ConfigPatch) (config : Config) (key : ConfigKey) :
    (patch.apply config).at key = (patch.at? key).or (config.at key) := by
  have scalar {α : Type} (made : Option α) (below : α) :
      some (made.getD below) = made.or (some below) := by
    cases made <;> rfl
  cases key with
  | commandToken robot => exact find?_putTokens _ _ robot
  | teamDomain =>
      show (patch.slack.teamDomain <|> config.slack.teamDomain) =
        patch.slack.teamDomain.or config.slack.teamDomain
      cases patch.slack.teamDomain <;> rfl
  | _ => exact scalar _ _

/-- What the caller demands over what is below it. -/
theorem ConfigOverrides.at_apply (overrides : ConfigOverrides) (config : Config)
    (key : ConfigKey) :
    (overrides.apply config).at key = (overrides.at? key).or (config.at key) := by
  have scalar {α : Type} (demand : Option α) (below : α) :
      some (demand.getD below) = demand.or (some below) := by
    cases demand <;> rfl
  cases key with
  | databaseUrl | webhookUrl | port | logLevel => exact scalar _ _
  | _ => rfl

namespace Environment

variable {env : Environment}

/-- A number is what the variable chosen for it says, and otherwise what was below. -/
theorem numberOr_eq_ok {bound : Nat} {key : ConfigKey} {below made : Fin bound}
    (applied : env.numberOr key below = .ok made) :
    some made = match env.chosen? key with
      | some (_, text) => unsigned? bound text
      | none => some below := by
  rw [numberOr] at applied
  cases chosen : env.chosen? key with
  | none =>
      rw [chosen] at applied
      exact congrArg some (Except.ok.inj applied).symm
  | some entry =>
      rw [chosen] at applied
      obtain ⟨name, text⟩ := entry
      cases read : unsigned? bound text with
      | none =>
          simp only [read] at applied
          cases applied
      | some number =>
          simp only [read] at applied
          exact (read.trans (congrArg some (Except.ok.inj applied))).symm

theorem formatOr_eq_ok {below made : LogFormat} (applied : env.formatOr below = .ok made) :
    some made = match env.chosen? .logFormat with
      | some (_, text) => (LogFormat.ofText text).toOption
      | none => some below := by
  rw [formatOr] at applied
  cases chosen : env.chosen? .logFormat with
  | none =>
      rw [chosen] at applied
      exact congrArg some (Except.ok.inj applied).symm
  | some entry =>
      rw [chosen] at applied
      exact (congrArg Except.toOption applied).symm

theorem some_textOr (env : Environment) (key : ConfigKey) (below : String) :
    some (env.textOr key below) = match env.chosen? key with
      | some (_, text) => some text
      | none => some below := by
  rw [textOr]
  cases env.chosen? key <;> rfl

/-- The environment over what is below it. -/
theorem at_apply {config made : Config} (applied : env.apply config = .ok made)
    (key : ConfigKey) :
    made.at key = match env.taken? key with
      | some (_, text) => key.read? text
      | none => config.at key := by
  obtain ⟨maxConnections, atMax, applied⟩ := bind_eq_ok applied
  obtain ⟨timeoutSecs, atTimeout, applied⟩ := bind_eq_ok applied
  obtain ⟨port, atPort, applied⟩ := bind_eq_ok applied
  obtain ⟨gracefulShutdownSecs, atGrace, applied⟩ := bind_eq_ok applied
  obtain ⟨format, atFormat, applied⟩ := bind_eq_ok applied
  cases applied
  cases key with
  | commandToken robot =>
      show (putTokens env.tokens config.slack.commandTokens).find? robot = _
      rw [find?_putTokens, taken?]
      cases lastToken? env.tokens robot <;> rfl
  | teamDomain =>
      show ((env.chosen? .teamDomain).map (·.2) <|> config.slack.teamDomain) =
        match env.chosen? .teamDomain with
        | some (_, text) => some text
        | none => config.slack.teamDomain
      cases env.chosen? .teamDomain <;> rfl
  | maxConnections => exact numberOr_eq_ok atMax
  | timeoutSecs => exact numberOr_eq_ok atTimeout
  | port => exact numberOr_eq_ok atPort
  | gracefulShutdownSecs => exact numberOr_eq_ok atGrace
  | logFormat => exact formatOr_eq_ok atFormat
  | databaseUrl | webhookUrl | bindAddress | logLevel => exact some_textOr env _ _

/-- What is taken from a variable can be read. -/
theorem isSome_at_apply {config made : Config} (applied : env.apply config = .ok made)
    {key : ConfigKey} (taken : (env.taken? key).isSome) : (made.at key).isSome := by
  obtain ⟨⟨name, text⟩, taken⟩ := Option.isSome_iff_exists.1 taken
  have inForce := at_apply applied key
  rw [taken] at inForce
  cases key with
  | commandToken _ | teamDomain => rw [inForce]; rfl
  | _ => rfl

end Environment

/-- The settings of the file that is read: none at all when there is no file. -/
inductive FileLayer (files : Files) (env : Environment) (options : LoadOptions) :
    ConfigPatch → Prop where
  | read {path : String} {patch : ConfigPatch}
      (found : configPath? files options.path = some path)
      (made : readPatch files env path = .ok patch) : FileLayer files env options patch
  | absent (missing : configPath? files options.path = none) : FileLayer files env options {}

/-- There is only one such layer. -/
theorem FileLayer.unique {files : Files} {env : Environment} {options : LoadOptions}
    {patch other : ConfigPatch} (layer : FileLayer files env options patch)
    (again : FileLayer files env options other) : patch = other := by
  cases layer with
  | read found made =>
      cases again with
      | read found' made' =>
          cases found.symm.trans found'
          exact Except.ok.inj (made.symm.trans made')
      | absent missing => cases found.symm.trans missing
  | absent missing =>
      cases again with
      | read found _ => cases missing.symm.trans found
      | absent _ => rfl

theorem Config.ofFile_eq_ok {files : Files} {env : Environment} {options : LoadOptions}
    {config : Config} (read : Config.ofFile files env options = .ok config) :
    ∃ patch, FileLayer files env options patch ∧ config = patch.apply Config.defaults := by
  unfold Config.ofFile at read
  split at read
  · rename_i path found
    cases made : readPatch files env path with
    | error error =>
        rw [made] at read
        cases read
    | ok patch =>
        rw [made] at read
        exact ⟨patch, .read found made, (Except.ok.inj read).symm⟩
  · rename_i missing
    split at read
    · cases read
    · exact ⟨{}, .absent missing, (Except.ok.inj read).symm⟩

/-- A configuration that is loaded consists of the layers, and every rule is kept. -/
theorem Config.load_eq_ok {files : Files} {env : Environment} {options : LoadOptions}
    {config : Config} (loaded : Config.load files env options = .ok config) :
    ∃ patch made, FileLayer files env options patch
      ∧ env.apply (patch.apply Config.defaults) = .ok made
      ∧ config = options.overrides.apply made ∧ ∀ rule ∈ config.rules, rule.2 = true := by
  obtain ⟨ofFile, read, loaded⟩ := bind_eq_ok loaded
  obtain ⟨made, applied, checked⟩ := bind_eq_ok loaded
  obtain ⟨patch, layer, rfl⟩ := Config.ofFile_eq_ok read
  obtain ⟨rfl, kept⟩ := Config.checked_eq_ok checked
  exact ⟨patch, made, layer, applied, rfl, kept⟩

namespace Config

variable {files : Files} {env : Environment} {options : LoadOptions} {config : Config}

/-- The layers of a configuration that is loaded, read at one setting. -/
theorem at_eq_of_load (loaded : Config.load files env options = .ok config) {patch : ConfigPatch}
    (layer : FileLayer files env options patch) (key : ConfigKey) :
    config.at key = (options.overrides.at? key).or (match env.taken? key with
      | some (_, text) => key.read? text
      | none => (patch.at? key).or (defaults.at key)) := by
  obtain ⟨patch', made, layer', applied, rfl, -⟩ := Config.load_eq_ok loaded
  cases layer.unique layer'
  rw [ConfigOverrides.at_apply, Environment.at_apply applied, ConfigPatch.at_apply]

/-- What is taken from a variable has been read. -/
theorem isSome_read_of_taken (loaded : Config.load files env options = .ok config)
    {key : ConfigKey} {name text : String} (taken : env.taken? key = some (name, text)) :
    (key.read? text).isSome := by
  obtain ⟨patch, made, -, applied, -⟩ := Config.load_eq_ok loaded
  have isTaken : (env.taken? key).isSome := by
    rw [taken]
    rfl
  have present := Environment.isSome_at_apply applied isTaken
  rw [Environment.at_apply applied, taken] at present
  exact present

end Config

end ChatRobots
