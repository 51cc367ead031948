/-
Module: ChatRobots.Proofs.Config.Redaction
Purpose: How much of the secrets can be read off the report.
Main exports: Environment.SameButSecrets, ConfigPatch.SameButSecrets, Config.report_eq_iff,
  OperatorTask.config_eq_iff
-/
import Mathlib.Data.List.Forall2
import Mathlib.Data.List.Sort
import Mathlib.Data.String.Basic
import ChatRobots.Operator.Task
import ChatRobots.Proofs.Config.CommandTokens
import ChatRobots.Proofs.Config.Interpolation
import ChatRobots.Proofs.Config.Provenance
import ChatRobots.Proofs.Config.WebAddress

namespace ChatRobots

/-!
Two runs are compared whose variables differ in secrets only: in tokens and in the address for the
replies.  Every line of the report but one is then the same, its source included, because tokens
are shown as a mark and sources are named after the variables that are there, whatever they hold.
The line that is left shows of the address what `redactUrl` leaves of it.

A file can insert any variable anywhere, for instance a token into a line that is shown.  So what
the file comes to has to be the same in both runs, but for the secrets.
-/

section Frames

/-- A line among others can be taken out of the whole. -/
theorem exists_frame_chars {α : Type} (separator : List α) (before after : List (List α)) :
    ∃ first last, ∀ line,
      separator.intercalate (before ++ line :: after) = first ++ line ++ last := by
  induction before with
  | nil =>
      cases after with
      | nil => exact ⟨[], [], fun line => by simp⟩
      | cons next rest =>
          refine ⟨[], separator ++ separator.intercalate (next :: rest), fun line => ?_⟩
          rw [List.nil_append, List.intercalate_cons_cons, List.nil_append, List.append_assoc]
  | cons head before ih =>
      obtain ⟨first, last, frame⟩ := ih
      refine ⟨head ++ separator ++ first, last, fun line => ?_⟩
      rw [List.cons_append, List.intercalate_cons_of_ne_nil (by simp), frame]
      simp only [List.append_assoc]

theorem exists_frame (separator : String) (before after : List String) :
    ∃ first last : String, ∀ line : String,
      separator.intercalate (before ++ line :: after) = first ++ line ++ last := by
  obtain ⟨first, last, frame⟩ := exists_frame_chars separator.toList (before.map String.toList)
    (after.map String.toList)
  refine ⟨String.ofList first, String.ofList last, fun line => ?_⟩
  rw [← String.toList_inj, String.toList_intercalate, List.map_append, List.map_cons, frame]
  simp only [String.toList_append, String.toList_ofList]

end Frames

theorem findSome?_congr {α β : Type} {f g : α → Option β} {list : List α}
    (same : ∀ a ∈ list, f a = g a) : list.findSome? f = list.findSome? g := by
  induction list with
  | nil => rfl
  | cons head rest ih =>
      have later : rest.findSome? f = rest.findSome? g :=
        ih fun a mem => same a (List.mem_cons_of_mem head mem)
      rw [List.findSome?_cons, List.findSome?_cons, same head List.mem_cons_self, later]

/-- A setting that the report must not show. -/
def ConfigKey.IsSecret : ConfigKey → Prop
  | webhookUrl | commandToken _ => True
  | _ => False

namespace Environment

/-- A variable that holds a token or the address for the replies. -/
def isSecret (name : String) : Bool :=
  name == "RELAYBOT_SLACK_WEBHOOK_URL" ||
    (Text.afterLead? tokenVariableLead.toList name.toList).isSome

/-- The same variable in two environments: its value is the same, or it is a secret. -/
inductive SameBinding : String × String → String × String → Prop where
  | same {name value : String} : SameBinding (name, value) (name, value)
  | secret {name value value' : String} (secret : isSecret name = true)
      (given : Text.isBlankText value = false) (given' : Text.isBlankText value' = false) :
      SameBinding (name, value) (name, value')

/-- The same variables with the same values, but for the secrets. -/
def SameButSecrets (env env' : Environment) : Prop :=
  List.Forall₂ SameBinding env.bindings env'.bindings

theorem lookup_alike {bindings bindings' : List (String × String)}
    (same : List.Forall₂ SameBinding bindings bindings') (name : String) :
    bindings.lookup name = bindings'.lookup name ∨
      isSecret name = true ∧ (bindings.lookup name).isSome ∧ (bindings'.lookup name).isSome := by
  induction same with
  | nil => exact .inl rfl
  | cons head _ ih =>
      cases head with
      | same =>
          simp only [Dictionary.lookup_cons_eq]
          split
          · exact .inl rfl
          · exact ih
      | secret secret given given' =>
          simp only [Dictionary.lookup_cons_eq]
          split
          · rename_i here
            exact .inr ⟨here ▸ secret, rfl, rfl⟩
          · exact ih

/-- The robot and the token of a variable, if it is one for a token. -/
def tokenOf? (binding : String × String) : Option (String × String) :=
  match Text.afterLead? tokenVariableLead.toList binding.1.toList with
  | some (c :: robot) =>
      if Text.isBlankText binding.2 then none else some (String.ofList (c :: robot), binding.2)
  | _ => none

theorem SameBinding.robot_eq {binding binding' : String × String}
    (same : SameBinding binding binding') :
    (tokenOf? binding).map (·.1) = (tokenOf? binding').map (·.1) := by
  cases same with
  | same => rfl
  | @secret name _ _ _ given given' =>
      unfold tokenOf?
      dsimp only
      rw [given, given']
      cases Text.afterLead? tokenVariableLead.toList name.toList with
      | none => rfl
      | some robot => cases robot <;> rfl

namespace SameButSecrets

variable {env env' : Environment}

/-- A variable has one value in both, or it is a secret and has some value in both. -/
theorem value? (same : env.SameButSecrets env') (name : String) :
    env.value? name = env'.value? name ∨
      isSecret name = true ∧ (env.value? name).isSome ∧ (env'.value? name).isSome :=
  lookup_alike same name

theorem isSome_value? (same : env.SameButSecrets env') (name : String) :
    (env.value? name).isSome = (env'.value? name).isSome := by
  rcases same.value? name with equal | ⟨-, first, second⟩
  · rw [equal]
  · rw [first, second]

theorem setting?_eq (same : env.SameButSecrets env') {name : String}
    (shown : isSecret name = false) : env.setting? name = env'.setting? name := by
  rcases same.value? name with equal | ⟨secret, -⟩
  · rw [setting?, setting?, equal]
  · cases shown.symm.trans secret

/-- Sources are named alike, because only the names of variables count. -/
theorem sourceOf_eq (same : env.SameButSecrets env') (file : Option ConfigFile)
    (key : ConfigKey) : sourceOf env file key = sourceOf env' file key := by
  unfold sourceOf
  simp only [same.isSome_value?]

/-- A setting that is shown is taken from the same variable with the same text. -/
theorem taken?_eq (same : env.SameButSecrets env') {key : ConfigKey} (shown : ¬ key.IsSecret) :
    env.taken? key = env'.taken? key := by
  have chosen (known : ∀ name ∈ key.variableNames, isSecret name = false) :
      env.chosen? key = env'.chosen? key := by
    rw [chosen?, chosen?]
    apply findSome?_congr
    intro name mem
    rw [same.setting?_eq (known name mem)]
  cases key with
  | webhookUrl | commandToken _ => exact absurd trivial shown
  | _ => exact chosen (by decide)

/-- The tokens have the same names. -/
theorem tokens_names (same : env.SameButSecrets env') :
    env.tokens.map (·.1) = env'.tokens.map (·.1) := by
  have named (env : Environment) : env.tokens.map (·.1) =
      env.bindings.filterMap fun binding => (tokenOf? binding).map (·.1) :=
    List.map_filterMap
  rw [named, named]
  unfold SameButSecrets at same
  generalize env.bindings = bindings, env'.bindings = bindings' at same
  induction same with
  | nil => rfl
  | cons head _ ih => rw [List.filterMap_cons, List.filterMap_cons, head.robot_eq, ih]

end SameButSecrets

end Environment

/-- Two readings of a file that say the same, but for the secrets, and have tokens for the same
robots. -/
structure ConfigPatch.SameButSecrets (patch patch' : ConfigPatch) : Prop where
  shown : ∀ key : ConfigKey, ¬ key.IsSecret → patch.at? key = patch'.at? key
  robots : (patch.slack.commandTokens.getD {}).keys = (patch'.slack.commandTokens.getD {}).keys

theorem ConfigPatch.SameButSecrets.refl (patch : ConfigPatch) : patch.SameButSecrets patch :=
  ⟨fun _ _ => rfl, rfl⟩

/-- The file inserts no secret. -/
def Files.NamesNoSecret (files : Files) : Prop :=
  ∀ path ∈ configPath? files none, ∀ text ∈ (files.readText path).toOption,
    ∀ name, Mentions text.toList name → Environment.isSecret name = false

theorem readPatch_congr {files : Files} {env env' : Environment} {path : String}
    (inserted : ∀ text ∈ (files.readText path).toOption,
      interpolate env text = interpolate env' text) :
    readPatch files env path = readPatch files env' path := by
  rw [readPatch, readPatch]
  cases content : files.readText path with
  | error cause => rfl
  | ok text =>
      rw [content] at inserted
      have equal := inserted text rfl
      show ((interpolate env text).mapError _ >>= _) = ((interpolate env' text).mapError _ >>= _)
      rw [equal]

/-- A file that inserts no secret says the same, whatever the secrets are. -/
theorem FileLayer.sameButSecrets {files : Files} {env env' : Environment}
    {patch patch' : ConfigPatch} (unnamed : files.NamesNoSecret) (same : env.SameButSecrets env')
    (layer : FileLayer files env {} patch) (layer' : FileLayer files env' {} patch') :
    patch.SameButSecrets patch' := by
  cases layer with
  | absent missing =>
      cases layer' with
      | absent _ => exact .refl {}
      | read found _ => cases missing.symm.trans found
  | @read path _ found made =>
      cases layer' with
      | absent missing => cases missing.symm.trans found
      | read found' made' =>
          cases found.symm.trans found'
          have inserted : ∀ text ∈ (files.readText path).toOption,
              interpolate env text = interpolate env' text := by
            intro text content
            apply interpolate_congr
            intro name mentioned
            rcases same.value? name with equal | ⟨secret, -⟩
            · exact equal
            · cases (unnamed path found text content name mentioned).symm.trans secret
          rw [readPatch_congr inserted] at made
          cases made.symm.trans made'
          exact .refl patch

/-- Whether a robot has a token depends on the names that are given. -/
theorem isSome_lastToken?_eq {tokens tokens' : List (String × String)}
    (names : tokens.map (·.1) = tokens'.map (·.1)) (robot : String) :
    (lastToken? tokens robot).isSome = (lastToken? tokens' robot).isSome := by
  have named (tokens : List (String × String)) : (lastToken? tokens robot).isSome ↔
      ∃ name ∈ tokens.map (·.1), Text.asciiLowercase name = robot := by
    rw [isSome_lastToken?]
    simp only [List.mem_map, exists_exists_and_eq_and]
  rw [Bool.eq_iff_iff, named, named, names]

section Runs

variable {files : Files} {env env' : Environment} {config config' : Config}
  {patch patch' : ConfigPatch}

section Twins

variable (loaded : Config.load files env {} = .ok config)
  (loaded' : Config.load files env' {} = .ok config') (same : env.SameButSecrets env')
  (layer : FileLayer files env {} patch) (layer' : FileLayer files env' {} patch')
  (sameFile : patch.SameButSecrets patch')

include loaded loaded' same layer layer' sameFile

/-- The settings that are shown have the same values. -/
theorem Config.at_eq_of_shown {key : ConfigKey} (shown : ¬ key.IsSecret) :
    config.at key = config'.at key := by
  rw [Config.at_of_load loaded layer, Config.at_of_load loaded' layer', same.taken?_eq shown,
    sameFile.shown key shown]

/-- The same robots have tokens. -/
theorem Config.tokens_keys_eq :
    config.slack.commandTokens.keys = config'.slack.commandTokens.keys := by
  apply Dictionary.keys_eq
  intro robot
  rw [Config.find?_commandTokens loaded layer, Config.find?_commandTokens loaded' layer',
    Option.isSome_map, Option.isSome_map, Option.isSome_or, Option.isSome_or,
    isSome_lastToken?_eq same.tokens_names, isSome_lastToken?_eq sameFile.robots]

/-- The lines of the report have the same keys and show the same values, but for the address. -/
theorem Config.values_eq :
    ∃ before after,
      config.values = before ++ (.webhookUrl, redactUrl config.slack.webhookUrl) :: after ∧
        config'.values = before ++ (.webhookUrl, redactUrl config'.slack.webhookUrl) :: after := by
  have shown (key : ConfigKey) (isShown : ¬ key.IsSecret) : config.at key = config'.at key :=
    Config.at_eq_of_shown loaded loaded' same layer layer' sameFile isShown
  have databaseUrl : config.database.url = config'.database.url :=
    Option.some.inj (shown .databaseUrl nofun)
  have maxConnections : config.database.maxConnections = config'.database.maxConnections :=
    Option.some.inj (shown .maxConnections nofun)
  have timeoutSecs : config.database.timeoutSecs = config'.database.timeoutSecs :=
    Option.some.inj (shown .timeoutSecs nofun)
  have teamDomain : config.slack.teamDomain = config'.slack.teamDomain := shown .teamDomain nofun
  have bindAddress : config.server.bindAddress = config'.server.bindAddress :=
    Option.some.inj (shown .bindAddress nofun)
  have port : config.server.port = config'.server.port := Option.some.inj (shown .port nofun)
  have grace : config.server.gracefulShutdownSecs = config'.server.gracefulShutdownSecs :=
    Option.some.inj (shown .gracefulShutdownSecs nofun)
  have level : config.logging.level = config'.logging.level :=
    Option.some.inj (shown .logLevel nofun)
  have format : config.logging.format = config'.logging.format :=
    Option.some.inj (shown .logFormat nofun)
  have robots := Config.tokens_keys_eq loaded loaded' same layer layer' sameFile
  refine ⟨config.values.take 3, config.values.drop 4, rfl, ?_⟩
  simp only [Config.values, databaseUrl, maxConnections, timeoutSecs, teamDomain, bindAddress,
    port, grace, level, format, robots]
  rfl

/-- The two reports are the same exactly when the address is shown alike. -/
theorem Config.report_eq_iff (file : Option ConfigFile) :
    config.report env file = config'.report env' file ↔
      redactUrl config.slack.webhookUrl = redactUrl config'.slack.webhookUrl := by
  obtain ⟨before, after, values, values'⟩ :=
    Config.values_eq loaded loaded' same layer layer' sameFile
  rw [Config.report, Config.report, values, values']
  simp only [← same.sourceOf_eq, List.map_append, List.map_cons, ← List.cons_append]
  obtain ⟨first, last, frame⟩ := exists_frame "\n" _ _
  rw [frame, frame]
  simp only [String.append_left_inj, String.append_right_inj]

end Twins

/-- An address that was loaded has parts. -/
theorem Config.exists_webAddress (loaded : Config.load files env {} = .ok config) :
    ∃ address : WebAddress, address.Spells config.slack.webhookUrl := by
  obtain ⟨_, _, _, _, _, kept⟩ := Config.load_eq_ok loaded
  have rule : (ConfigRule.webhookUrlScheme, leadsWith "http://" config.slack.webhookUrl
      || leadsWith "https://" config.slack.webhookUrl) ∈ config.rules := by
    simp [Config.rules]
  exact WebAddress.exists_spells (kept _ rule)

/-- Of two runs that differ in tokens and in the address for the replies, where the two addresses
have one scheme and one host, the same is printed exactly when the addresses agree in user, port,
and what stands behind the host before the first slash. -/
theorem OperatorTask.config_eq_iff (loaded : Config.load files env {} = .ok config)
    (loaded' : Config.load files env' {} = .ok config') (same : env.SameButSecrets env')
    (layer : FileLayer files env {} patch) (layer' : FileLayer files env' {} patch')
    (sameFile : patch.SameButSecrets patch') {address address' : WebAddress}
    (spells : address.Spells config.slack.webhookUrl)
    (spells' : address'.Spells config'.slack.webhookUrl)
    (scheme : address.secure = address'.secure) (host : address.host = address'.host) :
    (OperatorTask.config.run env files).1 = (OperatorTask.config.run env' files).1 ↔
      address.userInfo = address'.userInfo ∧ address.port = address'.port ∧
        address.shownTail = address'.shownTail := by
  have printed {env : Environment} {config : Config}
      (loaded : Config.load files env {} = .ok config) :
      (OperatorTask.run env files .config).1 = ⟨0, config.report env (configFile? files)⟩ := by
    rw [OperatorTask.run, loaded]
  rw [← WebAddress.redactUrl_eq_iff spells spells' scheme host,
    ← Config.report_eq_iff loaded loaded' same layer layer' sameFile (configFile? files),
    printed loaded, printed loaded', TaskReport.mk.injEq]
  exact and_iff_right rfl

end Runs

/-- Replies go to this address, and the poker robot has this token. -/
def withSecrets (url token : String) : Environment where
  bindings := [("RELAYBOT_SLACK_WEBHOOK_URL", url), (tokenVariableLead ++ "POKER", token)]

/-- What is loaded from these variables when there is no file. -/
def configWithSecrets (url token : String) : Config :=
  { Config.defaults with
    slack := { webhookUrl := url, commandTokens := Dictionary.ofList [("poker", token)] } }

theorem sameButSecrets_withSecrets {url url' token token' : String}
    (given : ∀ value ∈ [url, url', token, token'], Text.isBlankText value = false) :
    (withSecrets url token).SameButSecrets (withSecrets url' token') := by
  simp only [List.mem_cons, List.not_mem_nil, or_false, forall_eq_or_imp, forall_eq] at given
  exact .cons (.secret rfl given.1 given.2.1)
    (.cons (.secret rfl given.2.2.1 given.2.2.2) .nil)

/-- An address with the host of the examples. -/
def addressOnH (tail : List Char) (begins : ∀ c ∈ tail.head?, c ∈ ['/', '?', '#']) :
    WebAddress where
  secure := true
  userInfo := none
  host := ['h']
  port := []
  tail := tail
  userInfo_inside := nofun
  host_inside := by simp
  tail_outside := begins

/-- The path, what follows it and the tokens are not printed. -/
theorem path_not_printed :
    (OperatorTask.config.run (withSecrets "https://h/a" "s3cret") {}).1 =
      (OperatorTask.config.run (withSecrets "https://h/b?c#d" "t0ken") {}).1 := by
  have loaded : Config.load {} (withSecrets "https://h/a" "s3cret") {} =
      .ok (configWithSecrets "https://h/a" "s3cret") := rfl
  have loaded' : Config.load {} (withSecrets "https://h/b?c#d" "t0ken") {} =
      .ok (configWithSecrets "https://h/b?c#d" "t0ken") := rfl
  have spells : (addressOnH "/a".toList (by simp)).Spells "https://h/a" := by decide
  have spells' : (addressOnH "/b?c#d".toList (by simp)).Spells "https://h/b?c#d" := by decide
  exact (OperatorTask.config_eq_iff loaded loaded' (sameButSecrets_withSecrets (by decide))
    (.absent rfl) (.absent rfl) (.refl {}) spells spells' rfl rfl).2 ⟨rfl, rfl, rfl⟩

/-- A query that follows the host at once is printed, although both addresses are loaded and have
one scheme and one host. -/
theorem query_printed :
    let env := withSecrets "https://h?key=a" "s3cret"
    let env' := withSecrets "https://h?key=b" "s3cret"
    Config.load {} env {} = .ok (configWithSecrets "https://h?key=a" "s3cret") ∧
      Config.load {} env' {} = .ok (configWithSecrets "https://h?key=b" "s3cret") ∧
      (∃ first second : WebAddress,
        first.Spells "https://h?key=a" ∧ second.Spells "https://h?key=b" ∧
          first.secure = second.secure ∧ first.host = second.host) ∧
      env.SameButSecrets env' ∧
      (OperatorTask.config.run env {}).1 ≠ (OperatorTask.config.run env' {}).1 := by
  have spells : (addressOnH "?key=a".toList (by simp)).Spells "https://h?key=a" := by decide
  have spells' : (addressOnH "?key=b".toList (by simp)).Spells "https://h?key=b" := by decide
  exact ⟨rfl, rfl, ⟨_, _, spells, spells', rfl, rfl⟩, sameButSecrets_withSecrets (by decide),
    by decide +kernel⟩

end ChatRobots
