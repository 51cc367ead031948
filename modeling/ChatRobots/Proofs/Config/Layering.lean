/-
Module: ChatRobots.Proofs.Config.Layering
Purpose: A configuration that is loaded has each value from its highest layer, and keeps all rules.
Main exports: Layered, Environment.TokensApart, LayeredTokens, Config.Valid,
  Config.layered_of_load
-/
import Mathlib.Data.List.Pairwise
import ChatRobots.Proofs.Config.CommandTokens

namespace ChatRobots

/-!
Four layers make the settings: the defaults, the file, the variables, and what the caller demands.
For each setting but the tokens it is said here which layer is asked first, and no setting has a
say in another one.  The tokens are a map that several layers, and several names of one layer,
write to; it is told by the names that occur and by what is found under each of them.

Nothing of this uses the loader.  What it comes to is that the loader does just this, and that the
rules it checks in the end are those of a valid configuration.
-/

/-- What the layers make of a setting: each case takes a layer that has the setting, where no
layer above has it. -/
inductive Layered (env : Environment) (overrides : ConfigOverrides) (document : Toml.Value)
    (key : ConfigKey) : Option key.Value → Prop where
  | demanded {value : key.Value} (demand : overrides.at? key = some value) :
      Layered env overrides document key (some value)
  /-- Of the variables for the setting, the first that is set and not blank counts. -/
  | variable {earlier later : List String} {name text : String} {value : key.Value}
      (free : overrides.at? key = none) (names : key.variableNames = earlier ++ name :: later)
      (passed : ∀ other ∈ earlier, env.setting? other = none)
      (set : env.setting? name = some text) (reads : key.read? text = some value) :
      Layered env overrides document key (some value)
  | file {written : Toml.Value} {value : key.Value} (free : overrides.at? key = none)
      (unset : ∀ name ∈ key.variableNames, env.setting? name = none)
      (stands : key.stands? document = some written) (spells : key.Spells written value) :
      Layered env overrides document key (some value)
  | byDefault (free : overrides.at? key = none)
      (unset : ∀ name ∈ key.variableNames, env.setting? name = none)
      (silent : key.stands? document = none) :
      Layered env overrides document key (Config.defaults.at key)

/-- No two variables for tokens have names that differ at most in the case of letters. -/
def Environment.TokensApart (env : Environment) : Prop :=
  env.bindings.Pairwise fun first second => ∀ name other,
    first.1 = tokenVariableLead ++ name → second.1 = tokenVariableLead ++ other →
      Text.asciiLowercase name ≠ Text.asciiLowercase other

theorem Environment.tokensApart_iff {env : Environment} : env.TokensApart ↔
    env.bindings.Pairwise fun first second =>
      ∀ name ∈ Text.afterLead? tokenVariableLead.toList first.1.toList,
        ∀ other ∈ Text.afterLead? tokenVariableLead.toList second.1.toList,
          Text.asciiLowercase (.ofList name) ≠ Text.asciiLowercase (.ofList other) := by
  apply List.Pairwise.iff
  intro first second
  constructor
  · intro differ name taken other taken'
    exact differ _ _ (Text.afterLead?_eq_some_iff.1 taken) (Text.afterLead?_eq_some_iff.1 taken')
  · intro differ name other spelled spelled'
    rw [← String.ofList_toList (s := name)] at spelled ⊢
    rw [← String.ofList_toList (s := other)] at spelled' ⊢
    exact differ _ (Text.afterLead?_eq_some_iff.2 spelled) _
      (Text.afterLead?_eq_some_iff.2 spelled')

instance (env : Environment) : Decidable env.TokensApart :=
  decidable_of_iff _ Environment.tokensApart_iff.symm

/-- What the layers make of the tokens. -/
structure LayeredTokens (env : Environment) (document : Toml.Value) (tokens : Dictionary String) :
    Prop where
  /-- No name has two entries. -/
  once : tokens.keys.Nodup
  /-- The names are those that occur, in lower case. -/
  mem_keys_iff : ∀ robot, robot ∈ tokens.keys ↔ ∃ name, Text.asciiLowercase name = robot ∧
    (name ≠ "" ∧ (env.setting? (tokenVariableLead ++ name)).isSome ∨
      (document.token? name).isSome)
  byVariable : ∀ name token, name ≠ "" → env.setting? (tokenVariableLead ++ name) = some token →
    tokens.find? (Text.asciiLowercase name) = some token
  /-- Without a variable the token of the file counts, of several spellings the last one in the
  order of the bytes. -/
  byFile : ∀ name token,
    (∀ other, other ≠ "" → Text.asciiLowercase other = Text.asciiLowercase name →
      env.setting? (tokenVariableLead ++ other) = none) →
    document.token? name = some token →
    (∀ other, (document.token? other).isSome →
      Text.asciiLowercase other = Text.asciiLowercase name →
        ¬ Text.encodeUtf8 name < Text.encodeUtf8 other) →
    tokens.find? (Text.asciiLowercase name) = some token

/-- The text, blanks at its ends aside, begins with this. -/
def BeginsWith (lead text : String) : Prop :=
  lead.toList <+: Text.trim text.toList

/-- What is demanded of a configuration. -/
structure Config.Valid (config : Config) : Prop where
  databaseUrl : BeginsWith "sqlite://" config.database.url ∨
    BeginsWith "sqlite::" config.database.url ∨
      Text.trim config.database.url.toList = ":memory:".toList
  maxConnections : 0 < config.database.maxConnections.val
  timeoutSecs : 1 ≤ config.database.timeoutSecs.val ∧ config.database.timeoutSecs.val ≤ 300
  webhookUrl : BeginsWith "http://" config.slack.webhookUrl ∨
    BeginsWith "https://" config.slack.webhookUrl
  tokens : ∀ robot token, config.slack.commandTokens.find? robot = some token →
    Text.trim token.toList ≠ []
  port : 0 < config.server.port.val
  gracefulShutdownSecs : 0 < config.server.gracefulShutdownSecs.val
  level : Text.asciiLowercase (String.ofList (Text.trim config.logging.level.toList)) ∈
    ["trace", "debug", "info", "warn", "error"]

section Scalars

variable {env : Environment} {key : ConfigKey}

/-- The variable chosen for a setting is the first that is set and not blank. -/
theorem Environment.chosen?_eq_some {name text : String}
    (chosen : env.chosen? key = some (name, text)) :
    ∃ earlier later, key.variableNames = earlier ++ name :: later ∧
      (∀ other ∈ earlier, env.setting? other = none) ∧ env.setting? name = some text := by
  obtain ⟨earlier, found, later, names, set, passed⟩ := List.findSome?_eq_some_iff.1 chosen
  obtain ⟨text', set, same⟩ := Option.map_eq_some_iff.1 set
  cases same
  refine ⟨earlier, later, names, fun other member => ?_, set⟩
  exact Option.map_eq_none_iff.1 (passed other member)

theorem Environment.chosen?_eq_none (chosen : env.chosen? key = none) :
    ∀ name ∈ key.variableNames, env.setting? name = none := by
  intro name member
  exact Option.map_eq_none_iff.1 (List.findSome?_eq_none_iff.1 chosen name member)

end Scalars

section Tokens

variable {env : Environment} {name token : String}

/-- Variables for tokens whose names agree up to the case of letters are one variable. -/
theorem Environment.TokensApart.eq_of_same (apart : env.TokensApart) {other token' : String}
    (first : (tokenVariableLead ++ name, token) ∈ env.bindings)
    (second : (tokenVariableLead ++ other, token') ∈ env.bindings)
    (same : Text.asciiLowercase name = Text.asciiLowercase other) :
    name = other ∧ token = token' := by
  have symmetric : Std.Symm fun first second : String × String => ∀ name other,
      first.1 = tokenVariableLead ++ name → second.1 = tokenVariableLead ++ other →
        Text.asciiLowercase name ≠ Text.asciiLowercase other :=
    ⟨fun _ _ differ name other first second => (differ other name second first).symm⟩
  by_cases one : (tokenVariableLead ++ name, token) = (tokenVariableLead ++ other, token')
  · obtain ⟨names, tokens⟩ := Prod.mk.inj one
    exact ⟨(String.append_right_inj _).1 names, tokens⟩
  · exact absurd same (List.Pairwise.forall apart first second one name other rfl rfl)

/-- The environment has a token exactly when its variable is set and not blank. -/
theorem Environment.TokensApart.mem_tokens_iff (apart : env.TokensApart) :
    (name, token) ∈ env.tokens ↔
      name ≠ "" ∧ env.setting? (tokenVariableLead ++ name) = some token := by
  rw [Environment.mem_tokens_iff, setting?, Option.filter_eq_some_iff, Bool.not_eq_true']
  constructor
  · rintro ⟨named, solid, bound⟩
    obtain ⟨found, set⟩ := Option.isSome_iff_exists.1
      (isSome_lookup_iff.2 (List.mem_map_of_mem (f := (·.1)) bound))
    have same := (apart.eq_of_same (mem_of_lookup set) bound rfl).2
    exact ⟨named, same ▸ set, solid⟩
  · rintro ⟨named, set, solid⟩
    exact ⟨named, solid, mem_of_lookup set⟩

theorem Environment.TokensApart.lastToken? (apart : env.TokensApart)
    (given : (name, token) ∈ env.tokens) :
    lastToken? env.tokens (Text.asciiLowercase name) = some (name, token) := by
  obtain ⟨⟨other, token'⟩, last⟩ := Option.isSome_iff_exists.1
    (isSome_lastToken?.2 ⟨_, given, rfl⟩)
  have same : Text.asciiLowercase other = Text.asciiLowercase name := by
    simpa using List.find?_some last
  have listed : (other, token') ∈ env.tokens := List.mem_reverse.1 (List.mem_of_find?_eq_some last)
  obtain ⟨rfl, rfl⟩ := apart.eq_of_same (Environment.mem_tokens_iff.1 listed).2.2
    (Environment.mem_tokens_iff.1 given).2.2 same
  exact last

/-- In a dictionary the last spelling of a name is the last one in the order of the bytes. -/
theorem lastToken?_entries {tokens : Dictionary String} (found : tokens.find? name = some token)
    (last : ∀ other ∈ tokens.keys, Text.asciiLowercase other = Text.asciiLowercase name →
      ¬ Text.encodeUtf8 name < Text.encodeUtf8 other) :
    lastToken? tokens.entries (Text.asciiLowercase name) = some (name, token) := by
  obtain ⟨before, after, entries⟩ := List.append_of_mem (mem_of_lookup found)
  have sorted := tokens.sorted
  rw [entries, List.pairwise_append, List.pairwise_cons] at sorted
  rw [lastToken?, entries, List.reverse_append, List.reverse_cons, List.append_assoc,
    List.find?_eq_some_iff_append]
  refine ⟨beq_self_eq_true _, after.reverse, before.reverse, rfl, ?_⟩
  intro entry member
  have behind : entry ∈ after := List.mem_reverse.1 member
  have listed : entry.1 ∈ tokens.keys := by
    rw [Dictionary.keys, entries]
    exact List.mem_map_of_mem (List.mem_append_right _ (List.mem_cons_of_mem _ behind))
  rw [Bool.not_eq_true', beq_eq_false_iff_ne]
  exact fun same => last entry.1 listed same (Text.encodeUtf8_lt (sorted.2.1.1 entry behind))

end Tokens

section Rules

variable {config : Config}

theorem leadsWith_iff {lead text : String} : leadsWith lead text = true ↔ BeginsWith lead text :=
  Text.isSome_afterLead?_iff

/-- The levels are known by five words. -/
theorem mem_of_isSome_ofText? {text : String} (known : (LogLevel.ofText? text).isSome) :
    Text.asciiLowercase text ∈ ["trace", "debug", "info", "warn", "error"] := by
  unfold LogLevel.ofText? at known
  split at known <;> simp_all

theorem val_pos {bound : Nat} {number zero : Fin bound} (isZero : zero.val = 0)
    (given : (number != zero) = true) : 0 < number.val := by
  apply Nat.pos_of_ne_zero
  intro none
  exact bne_iff_ne.1 given (Fin.ext (none.trans isZero.symm))

/-- A configuration that keeps all rules is as it is demanded. -/
theorem Config.valid_of_rules (kept : ∀ rule ∈ config.rules, rule.2 = true) : config.Valid := by
  rw [rules, List.forall_mem_append, List.forall_mem_append] at kept
  obtain ⟨⟨first, tokens⟩, last⟩ := kept
  simp only [List.forall_mem_cons, List.not_mem_nil, false_implies, implies_true, and_true]
    at first last
  obtain ⟨url, connections, timeout, -, scheme⟩ := first
  obtain ⟨port, grace, level⟩ := last
  refine ⟨?_, ?_, ?_, ?_, ?_, ?_, ?_, ?_⟩
  · simpa [isDatabaseUrl, leadsWith_iff, or_assoc] using url
  · exact val_pos rfl connections
  · obtain ⟨positive, small⟩ := Bool.and_eq_true_iff.1 timeout
    exact ⟨val_pos rfl positive, Fin.le_def.1 (of_decide_eq_true small)⟩
  · simpa [leadsWith_iff] using scheme
  · intro robot token found
    have rule := tokens _ (List.mem_map_of_mem (mem_of_lookup found))
    simpa [Text.isBlankText] using rule
  · exact val_pos rfl port
  · exact val_pos rfl grace
  · exact mem_of_isSome_ofText? level

end Rules

namespace Config

variable {files : Files} {env : Environment} {options : LoadOptions} {config : Config}
  {document : Toml.Value} {patch : ConfigPatch}

/-- Every setting but the tokens has the value of its highest layer. -/
theorem layered_at (loaded : Config.load files env options = .ok config)
    (layer : FileLayer files env options patch)
    (read : ConfigPatch.ofToml? document = some patch) {key : ConfigKey}
    (scalar : ∀ robot, key ≠ .commandToken robot) :
    Layered env options.overrides document key (config.at key) := by
  have layers := at_eq_of_load loaded layer key
  have taken : env.taken? key = env.chosen? key := by
    cases key with
    | commandToken robot => exact absurd rfl (scalar robot)
    | _ => rfl
  rw [taken] at layers
  rw [layers]
  cases demand : options.overrides.at? key with
  | some value => exact .demanded demand
  | none =>
      cases chosen : env.chosen? key with
      | some entry =>
          obtain ⟨name, text⟩ := entry
          obtain ⟨earlier, later, names, passed, set⟩ := Environment.chosen?_eq_some chosen
          obtain ⟨value, reads⟩ :=
            Option.isSome_iff_exists.1 (isSome_read_of_taken loaded (taken.trans chosen))
          have highest : Layered env options.overrides document key (some value) :=
            .variable demand names passed set reads
          rw [← reads] at highest
          exact highest
      | none =>
          have unset := Environment.chosen?_eq_none chosen
          have inFile := ConfigPatch.said read scalar
          generalize stands : key.stands? document = written at inFile
          generalize patch.at? key = said at inFile ⊢
          cases inFile with
          | none => exact .byDefault demand unset stands
          | some spells => exact .file demand unset stands spells

/-- The tokens are those of the variables, and otherwise those of the file. -/
theorem layeredTokens (loaded : Config.load files env options = .ok config)
    (layer : FileLayer files env options patch)
    (read : ConfigPatch.ofToml? document = some patch) (apart : env.TokensApart) :
    LayeredTokens env document config.slack.commandTokens where
  once := config.slack.commandTokens.nodup_keys
  mem_keys_iff := by
    intro robot
    rw [Dictionary.mem_keys_iff, find?_commandTokens loaded layer, Option.isSome_map,
      Option.isSome_or, Bool.or_eq_true, isSome_lastToken?, isSome_lastToken?]
    constructor
    · rintro (⟨⟨name, token⟩, given, same⟩ | ⟨entry, given, same⟩)
      · obtain ⟨named, set⟩ := apart.mem_tokens_iff.1 given
        exact ⟨name, same, .inl ⟨named, by rw [set]; rfl⟩⟩
      · have listed : entry.1 ∈ patch.tokens.keys := List.mem_map_of_mem given
        rw [Dictionary.mem_keys_iff, ConfigPatch.find?_tokens read] at listed
        exact ⟨entry.1, same, .inr listed⟩
    · rintro ⟨name, same, ⟨named, set⟩ | listed⟩
      · obtain ⟨token, set⟩ := Option.isSome_iff_exists.1 set
        exact .inl ⟨(name, token), apart.mem_tokens_iff.2 ⟨named, set⟩, same⟩
      · rw [← ConfigPatch.find?_tokens read, ← Dictionary.mem_keys_iff] at listed
        obtain ⟨entry, given, rfl⟩ := List.mem_map.1 listed
        exact .inr ⟨entry, given, same⟩
  byVariable := by
    intro name token named set
    rw [find?_commandTokens loaded layer, apart.lastToken? (apart.mem_tokens_iff.2 ⟨named, set⟩)]
    rfl
  byFile := by
    intro name token unset given last
    have noVariable : lastToken? env.tokens (Text.asciiLowercase name) = none := by
      rw [← Option.not_isSome_iff_eq_none, isSome_lastToken?]
      rintro ⟨⟨other, token'⟩, given, same⟩
      obtain ⟨named, set⟩ := apart.mem_tokens_iff.1 given
      cases set.symm.trans (unset other named same)
    rw [← ConfigPatch.find?_tokens read] at given
    have fromFile := lastToken?_entries given fun other listed => by
      rw [Dictionary.mem_keys_iff, ConfigPatch.find?_tokens read] at listed
      exact last other listed
    rw [find?_commandTokens loaded layer, noVariable, Option.none_or]
    exact congrArg (Option.map (·.2)) fromFile

end Config

/-- A file with settings of the database, one of them inserted, and tokens for two robots, one of
them under two spellings. -/
def tokensFile : Files where
  entries := [(["relaybot.toml"], .bytes (Text.encodeUtf8
    ("[database]\nurl=\"sqlite://team.db\"\nmax_connections=7\ntimeout_secs=${WAIT}\n" ++
      "[slack]\nwebhook_url=\"http://h\"\n[slack.command_tokens]\nPoker=\"a\"\npoker=\"b\"\n" ++
        "store=\"c\"\n[server]\nport=8000")))]

/-- A value to insert, a number of connections, a level under both of its names, a blank port, and a
token. -/
def storeToken : Environment where
  bindings := [("WAIT", "45"), ("RELAYBOT_DATABASE_MAX_CONNECTIONS", "9"),
    ("RELAYBOT_LOG_LEVEL", "trace"), ("RELAYBOT_LOGGING_LEVEL", "debug"),
    ("RELAYBOT_SERVER_PORT", " "), (tokenVariableLead ++ "STORE", "t0ken")]

/-- The database in memory is demanded. -/
def memoryDemanded : LoadOptions where
  overrides := { databaseUrl := some ":memory:" }

end ChatRobots
