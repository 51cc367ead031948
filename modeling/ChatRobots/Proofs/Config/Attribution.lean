/-
Module: ChatRobots.Proofs.Config.Attribution
Purpose: When the report names the layer that a value comes from.
Main exports: Attributed, attributed_iff, Environment.Plain, PlainFile, Config.attributed_of_plain,
  blank_variable_misattributed
-/
import ChatRobots.Proofs.Config.PlainDocument
import ChatRobots.Proofs.Config.Provenance
import ChatRobots.Proofs.Text.AsciiLetters

namespace ChatRobots

/-!
The report decides on its own where a value comes from, and it asks other questions than the
loader.  It asks whether a variable is there, and the loader whether it is not blank; it asks for
the variable with the robot's name in capitals, and the loader goes through the variables there
are; it looks into the file as it stands, and the loader into the file with values inserted.

So a source is named rightly exactly when the first variable that is there is the one that was
taken, and the file has something at the setting's place exactly when it said something.  Plain
variables and plain files are like that, and a single blank variable is not.
-/

namespace ValueSource

/-- A source is known by its words. -/
theorem message_inj {source other : ValueSource} (same : source.message = other.message) :
    source = other := by
  have chars : source.message.toList = other.message.toList := congrArg String.toList same
  cases source <;> cases other <;>
    simp only [message, String.toList_append, String.reduceToList, List.cons_append,
      List.nil_append, List.cons.injEq, Char.reduceEq, false_and, and_false, true_and,
      List.append_cancel_right_eq, String.toList_inj] at chars
  case environment.environment => exact congrArg environment chars
  case file.file => exact congrArg file chars
  case byDefault.byDefault => rfl

end ValueSource

/-- The report names the layer that supplied the value, and no other one. -/
def Attributed (files : Files) (env : Environment) (config : Config) (key : ConfigKey) : Prop :=
  ∀ source : ValueSource,
    (sourceOf env (configFile? files) key).message = source.message ↔
      Supplied files env config key source

/-- The variable that the report looks at: the first one that is there. -/
def Environment.firstSet? (env : Environment) (key : ConfigKey) : Option String :=
  key.variableNames.find? fun name => (env.value? name).isSome

/-- The file as it stands has something at the setting's place. -/
def Files.mention (files : Files) (key : ConfigKey) : Prop :=
  ∃ file, configFile? files = some file ∧ file.mentions key = true

section Exactly

variable {files : Files} {env : Environment} {config : Config} {key : ConfigKey}

theorem attributed_iff_supplied :
    Attributed files env config key ↔
      Supplied files env config key (sourceOf env (configFile? files) key) := by
  constructor
  · intro attributed
    exact (attributed _).1 rfl
  · intro supplied source
    constructor
    · intro same
      exact ValueSource.message_inj same ▸ supplied
    · intro again
      exact congrArg ValueSource.message (supplied.unique again)

theorem sourceOf_of_firstSet {name : String} (set : env.firstSet? key = some name) :
    sourceOf env (configFile? files) key = .environment name := by
  unfold sourceOf
  rw [← Environment.firstSet?, set]

theorem path_of_configFile? {file : ConfigFile} (found : configFile? files = some file) :
    configPath? files none = some file.path := by
  obtain ⟨path, there, rfl⟩ := Option.map_eq_some_iff.1 found
  exact there

theorem sourceOf_of_mention (unset : env.firstSet? key = none) {path : String}
    (found : configPath? files none = some path) (mentions : files.mention key) :
    sourceOf env (configFile? files) key = .file path := by
  obtain ⟨file, there, mentions⟩ := mentions
  cases found.symm.trans (path_of_configFile? there)
  unfold sourceOf
  rw [← Environment.firstSet?, unset, there]
  exact if_pos mentions

theorem sourceOf_of_not_mention (unset : env.firstSet? key = none)
    (silent : ¬ files.mention key) : sourceOf env (configFile? files) key = .byDefault := by
  unfold sourceOf
  rw [← Environment.firstSet?, unset]
  cases found : configFile? files with
  | none => rfl
  | some file => exact if_neg fun mentions => silent ⟨file, found, mentions⟩

theorem sourceOf_eq_environment_iff {name : String} :
    sourceOf env (configFile? files) key = .environment name ↔ env.firstSet? key = some name := by
  refine ⟨fun same => ?_, sourceOf_of_firstSet⟩
  cases set : env.firstSet? key with
  | some first => exact congrArg some (ValueSource.environment.inj
      ((sourceOf_of_firstSet set).symm.trans same))
  | none =>
      by_cases mentions : files.mention key
      · obtain ⟨file, there, -⟩ := id mentions
        cases (sourceOf_of_mention set (path_of_configFile? there) mentions).symm.trans same
      · cases (sourceOf_of_not_mention set mentions).symm.trans same

theorem sourceOf_eq_file_iff (unset : env.firstSet? key = none) {path : String}
    (found : configPath? files none = some path) :
    sourceOf env (configFile? files) key = .file path ↔ files.mention key := by
  refine ⟨fun same => ?_, sourceOf_of_mention unset found⟩
  by_contra silent
  cases (sourceOf_of_not_mention unset silent).symm.trans same

theorem sourceOf_eq_byDefault_iff (unset : env.firstSet? key = none) :
    sourceOf env (configFile? files) key = .byDefault ↔ ¬ files.mention key := by
  refine ⟨fun same mentions => ?_, sourceOf_of_not_mention unset⟩
  obtain ⟨file, there, -⟩ := id mentions
  cases (sourceOf_of_mention unset (path_of_configFile? there) mentions).symm.trans same

/-- The source is named rightly exactly when report and loader look at the same variable and, if
there is none, find the setting in the file together. -/
theorem attributed_iff (loaded : Config.load files env {} = .ok config) {patch : ConfigPatch}
    (layer : FileLayer files env {} patch) :
    Attributed files env config key ↔
      env.firstSet? key = (env.taken? key).map (·.1) ∧
        (env.taken? key = none → (files.mention key ↔ (patch.at? key).isSome)) := by
  have named {source : ValueSource} (supplied : Supplied files env config key source) :
      Attributed files env config key ↔ sourceOf env (configFile? files) key = source := by
    rw [attributed_iff_supplied]
    exact ⟨fun again => again.unique supplied, fun same => same ▸ supplied⟩
  cases taken : env.taken? key with
  | some entry =>
      obtain ⟨name, text⟩ := entry
      rw [named (.of_taken loaded taken), sourceOf_eq_environment_iff]
      exact ⟨fun set => ⟨set, nofun⟩, fun holds => holds.1⟩
  | none =>
      cases set : env.firstSet? key with
      | some name =>
          -- The report names a variable, although none was taken.
          obtain ⟨source, supplied⟩ := Config.exists_supplied loaded key
          rw [named supplied, sourceOf_of_firstSet set]
          refine ⟨?_, fun holds => nomatch holds.1⟩
          rintro rfl
          cases supplied with
          | environment taken' => cases taken.symm.trans taken'
      | none =>
          have rest : (patch.at? key).isSome ∨ patch.at? key = none := by
            cases patch.at? key <;> simp
          rcases rest with said | silent
          · cases layer with
            | absent _ => cases key <;> cases said
            | read found made =>
                rw [named (.of_said loaded taken found made said), sourceOf_eq_file_iff set found]
                exact ⟨fun mentions => ⟨rfl, fun _ => iff_of_true mentions said⟩,
                  fun holds => (holds.2 rfl).2 said⟩
          · rw [named (.of_silent loaded taken layer silent), sourceOf_eq_byDefault_iff set, silent]
            exact ⟨fun quiet => ⟨rfl, fun _ => iff_of_false quiet Bool.false_ne_true⟩,
              fun holds mentions => Bool.false_ne_true ((holds.2 rfl).1 mentions)⟩

end Exactly

/-!
What follows are conditions on variables and on the file under which every line of the report is
right.  None of them can be left out altogether: each excludes a way in which the loader takes a
value that the report ascribes to another layer.
-/

/-- No variable of a setting is blank, and those for tokens name their robots in capitals. -/
structure Environment.Plain (env : Environment) : Prop where
  solid : ∀ key : ConfigKey, ∀ name ∈ key.variableNames, ∀ value,
    env.value? name = some value → Text.isBlankText value = false
  capitals : ∀ robot token, (robot, token) ∈ env.tokens → Text.asciiUppercase robot = robot
  named : env.value? tokenVariableLead = none

/-- With its values inserted the file is a plain document, and has settings where it had them. -/
structure PlainFile (files : Files) (env : Environment) : Prop where
  document : ∀ path ∈ configPath? files none, ∀ document ∈ documentOf? files env path,
    document.Plain
  unmoved : ∀ file, configFile? files = some file → ∀ key : ConfigKey,
    file.mentions key = (⟨file.path, documentOf? files env file.path⟩ : ConfigFile).mentions key

section Plainly

variable {files : Files} {env : Environment} {config : Config} {key : ConfigKey}

/-- Where no variable is blank, the first one that is there is the first one that counts. -/
theorem find?_eq_findSome? {names : List String}
    (solid : ∀ name ∈ names, ∀ value, env.value? name = some value →
      Text.isBlankText value = false) :
    names.find? (fun name => (env.value? name).isSome) =
      (names.findSome? fun name => (env.setting? name).map ((name, ·))).map (·.1) := by
  induction names with
  | nil => rfl
  | cons name rest ih =>
      have later := ih fun name mem => solid name (List.mem_cons_of_mem _ mem)
      rw [List.find?_cons, List.findSome?_cons, Environment.setting?]
      cases set : env.value? name with
      | none => exact later
      | some value =>
          have counts : (!Text.isBlankText value) = true := by
            rw [solid name List.mem_cons_self value set]
            rfl
          rw [Option.filter_some, if_pos counts]
          rfl

theorem Environment.Plain.asciiUppercase_eq (plain : env.Plain) {entry : String × String}
    (mem : entry ∈ env.tokens) {robot : String} (same : Text.asciiLowercase entry.1 = robot) :
    Text.asciiUppercase robot = entry.1 := by
  rw [← same, Text.asciiUppercase_asciiLowercase, plain.capitals entry.1 entry.2 mem]

/-- Of plain variables for tokens, the one with the robot's name in capitals is there exactly when
one was taken. -/
theorem Environment.Plain.value?_tokenVariable (plain : env.Plain) {robot : String}
    (lower : Text.asciiLowercase robot = robot) :
    (env.value? (tokenVariableLead ++ Text.asciiUppercase robot)).isSome ↔
      (lastToken? env.tokens robot).isSome := by
  rw [isSome_lastToken?]
  constructor
  · intro set
    obtain ⟨token, set⟩ := Option.isSome_iff_exists.1 set
    have named : Text.asciiUppercase robot ≠ "" := by
      intro unnamed
      rw [unnamed, String.append_empty, plain.named] at set
      cases set
    have solid : Text.isBlankText token = false :=
      plain.solid (.commandToken robot) _ List.mem_cons_self token set
    refine ⟨(Text.asciiUppercase robot, token), ?_, ?_⟩
    · exact mem_tokens_iff.2 ⟨named, solid, mem_of_lookup set⟩
    · rw [Text.asciiLowercase_asciiUppercase, lower]
  · rintro ⟨⟨name, token⟩, mem, same⟩
    rw [plain.asciiUppercase_eq mem same, Environment.value?, isSome_lookup_iff]
    exact List.mem_map_of_mem (mem_tokens_iff.1 mem).2.2

/-- Of plain variables, report and loader look at the same one. -/
theorem Environment.Plain.firstSet?_eq (plain : env.Plain)
    (lower : ∀ robot, key = .commandToken robot → Text.asciiLowercase robot = robot) :
    env.firstSet? key = (env.taken? key).map (·.1) := by
  cases key with
  | commandToken robot =>
      have same := plain.value?_tokenVariable (lower robot rfl)
      rw [firstSet?, ConfigKey.variableNames, List.find?_singleton, taken?, Option.map_map]
      cases last : lastToken? env.tokens robot with
      | none =>
          rw [last] at same
          exact if_neg fun set => Bool.false_ne_true (same.1 set)
      | some entry =>
          have mem : entry ∈ env.tokens := List.mem_reverse.1 (List.mem_of_find?_eq_some last)
          have named : Text.asciiLowercase entry.1 = robot := by
            simpa using List.find?_some last
          rw [last] at same
          rw [if_pos (same.2 rfl), plain.asciiUppercase_eq mem named]
          rfl
  | _ => exact find?_eq_findSome? (plain.solid _)

/-- The robots that a plain file has tokens for have names without dots. -/
theorem PlainFile.undotted (plain : PlainFile files env) {patch : ConfigPatch}
    (layer : FileLayer files env {} patch) {robot : String}
    (given : (patch.at? (.commandToken robot)).isSome) : '.' ∉ robot.toList := by
  cases layer with
  | absent _ => cases given
  | read found made =>
      obtain ⟨document, parsed, said⟩ := readPatch_eq_ok made
      have isPlain := plain.document _ found document parsed
      rw [ConfigPatch.isSome_at?_of_toml said isPlain] at given
      exact isPlain.undotted given

/-- In a plain file, report and loader find the same settings. -/
theorem PlainFile.mention_iff (plain : PlainFile files env) {patch : ConfigPatch}
    (layer : FileLayer files env {} patch)
    (undotted : ∀ robot, key = .commandToken robot → '.' ∉ robot.toList) :
    files.mention key ↔ (patch.at? key).isSome := by
  cases layer with
  | absent missing =>
      have silent : (({} : ConfigPatch).at? key).isSome = false := by cases key <;> rfl
      rw [silent]
      refine iff_of_false ?_ Bool.false_ne_true
      rintro ⟨file, there, -⟩
      cases missing.symm.trans (path_of_configFile? there)
  | @read path patch found made =>
      obtain ⟨document, parsed, said⟩ := readPatch_eq_ok made
      have there : configFile? files = some _ := congrArg (Option.map _) found
      have stands : (⟨path, documentOf? files env path⟩ : ConfigFile).mentions key =
          (document.at? key.place).isSome := by
        rw [parsed, ConfigFile.mentions, ConfigKey.pieces_name undotted]
      rw [ConfigPatch.isSome_at?_of_toml said (plain.document path found document parsed),
        ← stands, ← plain.unmoved _ there]
      exact ⟨fun ⟨file, there', mentions⟩ => by cases there.symm.trans there'; exact mentions,
        fun mentions => ⟨_, there, mentions⟩⟩

/-- Of a robot that the report has a line for, the name is in lower case, and a token is given by
the environment or by the file. -/
theorem Config.lower_of_mem_values (loaded : Config.load files env {} = .ok config)
    {patch : ConfigPatch} (layer : FileLayer files env {} patch) {shown : String}
    (line : (key, shown) ∈ config.values) {robot : String} (isToken : key = .commandToken robot) :
    Text.asciiLowercase robot = robot ∧
      (env.taken? key = none → (patch.at? key).isSome) := by
  subst isToken
  have listed : robot ∈ config.slack.commandTokens.keys ∧ "<redacted>" = shown := by
    simpa [Config.values] using line
  have found : (config.slack.commandTokens.find? robot).isSome := isSome_lookup_iff.2 listed.1
  rw [Config.find?_commandTokens loaded layer, Option.isSome_map] at found
  constructor
  · rw [Option.isSome_or, Bool.or_eq_true, isSome_lastToken?, isSome_lastToken?] at found
    rcases found with ⟨entry, -, rfl⟩ | ⟨entry, -, rfl⟩ <;> exact Text.asciiLowercase_idem entry.1
  · intro untaken
    have noVariable : lastToken? env.tokens robot = none := Option.map_eq_none_iff.1 untaken
    rw [noVariable, Option.none_or] at found
    exact Option.isSome_map.trans found

/-- With plain variables and a plain file, every line of the report names the layer that supplied
its value. -/
theorem Config.attributed_of_plain (loaded : Config.load files env {} = .ok config)
    (plain : env.Plain) (plainFile : PlainFile files env) {shown : String}
    (line : (key, shown) ∈ config.values) : Attributed files env config key := by
  obtain ⟨patch, _, layer, -⟩ := Config.load_eq_ok loaded
  rw [attributed_iff loaded layer]
  constructor
  · apply plain.firstSet?_eq
    intro robot isToken
    exact (Config.lower_of_mem_values loaded layer line isToken).1
  · intro untaken
    apply plainFile.mention_iff layer
    rintro robot rfl
    have given := (Config.lower_of_mem_values loaded layer line rfl).2 untaken
    exact plainFile.undotted layer given

/-- In a file without variables, nothing is moved by inserting their values. -/
theorem PlainFile.of_literal
    (literal : ∀ path ∈ configPath? files none, ∀ text ∈ (files.readText path).toOption,
      (interpolate env text).toOption = some text)
    (document : ∀ path ∈ configPath? files none, ∀ document ∈ documentOf? files env path,
      document.Plain) : PlainFile files env where
  document := document
  unmoved := by
    intro file there key
    obtain ⟨path, found, rfl⟩ := Option.map_eq_some_iff.1 there
    have same : documentOf? files env path = (files.readText path).toOption.bind Toml.parse? := by
      cases content : (files.readText path).toOption with
      | none =>
          rw [documentOf?, content]
          rfl
      | some text =>
          rw [documentOf?, content]
          show (interpolate env text).toOption.bind Toml.parse? = Toml.parse? text
          rw [literal path found text content]
          rfl
    rw [same]

end Plainly

/-!
Two variables and a file with one setting, and the sources that are named for them.
-/

/-- A port, and a token for a robot. -/
def portAndToken : Environment where
  bindings := [("RELAYBOT_SERVER_PORT", "9000"), (tokenVariableLead ++ "STORE", "t0ken")]

/-- A file with the address for the replies. -/
def webhookFile : Files where
  entries := [(["relaybot.toml"],
    .bytes (Text.encodeUtf8 "[slack]\nwebhook_url=\"http://h\""))]

theorem plain_portAndToken : portAndToken.Plain where
  solid := by
    intro key name _ value set
    have bound := mem_of_lookup set
    simp only [portAndToken, List.mem_cons, Prod.mk.injEq, List.not_mem_nil, or_false] at bound
    rcases bound with ⟨-, rfl⟩ | ⟨-, rfl⟩ <;> decide
  capitals := by
    intro robot token mem
    have listed : portAndToken.tokens = [("STORE", "t0ken")] := rfl
    rw [listed, List.mem_singleton] at mem
    cases mem
    decide
  named := rfl

theorem plainFile_webhookFile : PlainFile webhookFile portAndToken :=
  .of_literal (by decide +kernel) (by decide +kernel)

/-- Every line names its source, and four sources are named. -/
theorem portAndToken_attributed :
    ∃ config, Config.load webhookFile portAndToken {} = .ok config ∧
      (∀ line ∈ config.values, Attributed webhookFile portAndToken config line.1) ∧
        config.values.map (fun line =>
            (sourceOf portAndToken (configFile? webhookFile) line.1).message) =
          ["default", "default", "default", "file (relaybot.toml)", "default",
            "env (RELAYBOT_SLACK_COMMAND_TOKEN_STORE)", "default", "env (RELAYBOT_SERVER_PORT)",
            "default", "default", "default"] := by
  have sources : (Config.load webhookFile portAndToken {}).toOption.map (fun config =>
      config.values.map fun line =>
        (sourceOf portAndToken (configFile? webhookFile) line.1).message) =
      some ["default", "default", "default", "file (relaybot.toml)", "default",
        "env (RELAYBOT_SLACK_COMMAND_TOKEN_STORE)", "default", "env (RELAYBOT_SERVER_PORT)",
        "default", "default", "default"] := by
    decide +kernel
  cases loaded : Config.load webhookFile portAndToken {} with
  | error error =>
      rw [loaded] at sources
      cases sources
  | ok config =>
      rw [loaded] at sources
      refine ⟨config, rfl, fun line mem => ?_, Option.some.inj sources⟩
      exact Config.attributed_of_plain loaded plain_portAndToken plainFile_webhookFile mem

/-- The address for the replies, and a blank variable for that of the database. -/
def blankDatabaseUrl : Environment where
  bindings := [("RELAYBOT_SLACK_WEBHOOK_URL", "http://h"), ("RELAYBOT_DATABASE_URL", " ")]

/-- The default is in force, and the report names the blank variable. -/
theorem blank_variable_misattributed :
    let config : Config := { slack := { webhookUrl := "http://h" } }
    Config.load {} blankDatabaseUrl {} = .ok config ∧
      (ConfigKey.databaseUrl, "sqlite://relaybot.db") ∈ config.values ∧
        Supplied {} blankDatabaseUrl config .databaseUrl .byDefault ∧
          ¬ Attributed {} blankDatabaseUrl config .databaseUrl := by
  intro config
  have loaded : Config.load {} blankDatabaseUrl {} = .ok config := rfl
  have supplied : Supplied {} blankDatabaseUrl config .databaseUrl .byDefault :=
    .byDefault rfl (.absent rfl) rfl rfl
  refine ⟨loaded, List.mem_cons_self, supplied, fun attributed => ?_⟩
  have named : ("env (RELAYBOT_DATABASE_URL)" : String) = "default" :=
    (attributed .byDefault).2 supplied
  exact absurd named (by decide)

end ChatRobots
