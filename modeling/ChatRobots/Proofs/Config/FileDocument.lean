/-
Module: ChatRobots.Proofs.Config.FileDocument
Purpose: What the document of a file has for each setting, and that this is what is read of it.
Main exports: ConfigKey.place, ConfigKey.stands?, ConfigKey.Spells, Toml.Value.token?,
  ConfigPatch.said, ConfigPatch.find?_tokens, documentOf?, FileDocument,
  FileLayer.exists_document
-/
import Mathlib.Data.List.Forall2
import Mathlib.Data.Option.Defs
import ChatRobots.Proofs.Config.Layers

namespace ChatRobots

/-!
A document has a value at the place of each setting or none at all, and a value spells at most one
that the setting can have.  This is said here of documents alone, whatever is made of them: where a
setting stands in a group that is a table, where in one that is an array, and which text, number
or name it is that stands there.  Tokens stand in a table of their own under names that are free.

The loader goes through a document group by group.  All that it reads is spelled in the document,
and what it leaves out does not stand there.
-/

namespace Toml.Value

/-- What a group of settings with these names has under one of them: in a table the entry, in an
array the item in the name's place. -/
def member? (names : List String) (group : Value) (name : String) : Option Value :=
  match group.entries?, group.items? with
  | some entries, _ => entries.lookup name
  | none, some items => (names.zip items).lookup name
  | none, none => none

/-- The text that a table has under a name; of several entries the last one counts.  A moment
stands for the table with its text under a name of its own. -/
def textUnder? (value : Value) (name : String) : Option String :=
  match value, value.entries? with
  | moment content, _ => if name = momentKey then some content.toText else none
  | _, some entries =>
      match entries.reverse.lookup name with
      | some (string text) => some text
      | _ => none
  | _, none => none

end Toml.Value

namespace ConfigKey

/-- Where a setting stands in a document. -/
def place : ConfigKey → List String
  | databaseUrl => ["database", "url"]
  | maxConnections => ["database", "max_connections"]
  | timeoutSecs => ["database", "timeout_secs"]
  | webhookUrl => ["slack", "webhook_url"]
  | teamDomain => ["slack", "team_domain"]
  | commandToken robot => ["slack", "command_tokens", robot]
  | bindAddress => ["server", "bind_address"]
  | port => ["server", "port"]
  | gracefulShutdownSecs => ["server", "graceful_shutdown_secs"]
  | logLevel => ["logging", "level"]
  | logFormat => ["logging", "format"]

/-- The names in a group, in the order in which an array has their values. -/
def groupNames : String → List String
  | "database" => ["url", "max_connections", "timeout_secs"]
  | "slack" => ["webhook_url", "team_domain", "command_tokens"]
  | "server" => ["bind_address", "port", "graceful_shutdown_secs"]
  | "logging" => ["level", "format"]
  | _ => []

end ConfigKey

/-- What a document has under a name of one of its groups. -/
def Toml.Value.inGroup? (document : Value) (group name : String) : Option Value :=
  (document.at? [group]).bind fun settings => settings.member? (ConfigKey.groupNames group) name

/-- The token that a document has under a name. -/
def Toml.Value.token? (document : Value) (name : String) : Option String :=
  (document.inGroup? "slack" "command_tokens").bind (·.textUnder? name)

namespace ConfigKey

/-- What a document has at the place of a setting. -/
def stands? (key : ConfigKey) (document : Toml.Value) : Option Toml.Value :=
  match key.place with
  | [group, name] => document.inGroup? group name
  | [group, name, entry] => (document.inGroup? group name).bind (·.at? [entry])
  | _ => none

/-- What stands there spells this value: texts are strings and numbers integers, and the format of
the log is its name, alone or as the only key of a table with nothing in it. -/
def Spells : (key : ConfigKey) → Toml.Value → key.Value → Prop
  | maxConnections, written, value => written = .integer (show Word32 from value).val
  | timeoutSecs, written, value => written = .integer (show Word64 from value).val
  | port, written, value => written = .integer (show Word16 from value).val
  | gracefulShutdownSecs, written, value => written = .integer (show Word64 from value).val
  | logFormat, written, value =>
      let name := (show LogFormat from value).name
      written = .string name ∨ ∃ content, written.entries? = some [(name, content)] ∧
        (content.entries? = some [] ∨ content.items? = some [])
  | databaseUrl, written, value | webhookUrl, written, value | teamDomain, written, value
  | commandToken _, written, value | bindAddress, written, value | logLevel, written, value =>
      written = .string value

end ConfigKey

section Values

variable {value : Toml.Value}

theorem Toml.Value.eq_of_text? {text : String} (read : value.text? = some text) :
    value = .string text := by
  cases value with
  | string content =>
      cases read
      rfl
  | _ => cases read

theorem Toml.Value.eq_of_below? {bound : Nat} {number : Fin bound}
    (read : value.below? bound = some number) : value = .integer number.val := by
  cases value with
  | integer content =>
      cases content with
      | ofNat content => rw [val_eq_of_bounded? read]; rfl
      | negSucc _ => cases read
  | _ => cases read

theorem LogFormat.eq_name_of_ofName? {name : String} {format : LogFormat}
    (known : LogFormat.ofName? name = some format) : name = format.name := by
  unfold LogFormat.ofName? at known
  split at known <;> cases known <;> rfl

/-- A table or an array with nothing in it. -/
theorem Toml.Value.isVoid_iff :
    value.isVoid = true ↔ value.entries? = some [] ∨ value.items? = some [] := by
  cases value <;> simp [isVoid, entries?, items?]

theorem Toml.Value.spells_of_logFormat? {format : LogFormat}
    (read : value.logFormat? = some format) : ConfigKey.logFormat.Spells value format := by
  unfold logFormat? at read
  split at read
  · exact .inl (congrArg string (LogFormat.eq_name_of_ofName? read))
  · rename_i name content _ entries
    split at read
    · rename_i void
      refine .inr ⟨content, ?_, isVoid_iff.1 void⟩
      rw [entries, LogFormat.eq_name_of_ofName? read]
    · cases read
  · cases read

end Values

section Groups

variable {π α : Type} {document value : Toml.Value} {entries : Toml.Entries}

/-- An entry is read if there is one, and then it can be read. -/
theorem rel_of_readEntry {read? : Toml.Value → Option α} {Spells : Toml.Value → α → Prop}
    {name : String} {found : Option α} (read : Toml.readEntry? entries name read? = some found)
    (spells : ∀ ⦃written content⦄, read? written = some content → Spells written content) :
    Option.Rel Spells (entries.lookup name) found := by
  unfold Toml.readEntry? at read
  cases stands : entries.lookup name with
  | none =>
      rw [stands] at read
      cases read
      exact .none
  | some written =>
      rw [stands] at read
      obtain ⟨content, readable, rfl⟩ := Option.map_eq_some_iff.1 read
      exact .some (spells readable)

/-- The entries of a group have what the group has, under every name that a setting can have. -/
theorem Toml.Value.lookup_of_group? {names : List String} {name : String}
    (group : value.group? names = some entries) (known : name ≠ momentKey) :
    entries.lookup name = value.member? names name := by
  cases value with
  | moment content =>
      cases group
      rw [Dictionary.lookup_cons_eq, if_neg known]
      rfl
  | inlineTable _ | table _ _ =>
      cases group
      rfl
  | array items =>
      obtain ⟨-, made⟩ := Option.ite_none_right_eq_some.1 group
      cases made
      rfl
  | tables items =>
      obtain ⟨-, made⟩ := Option.ite_none_right_eq_some.1 group
      cases made
      rfl
  | _ => cases group

/-- What is read from a group stands in the group, whatever is read from it. -/
theorem rel_of_group {field : π → Option α} {unsaid : π} {ofToml? : Toml.Value → Option π}
    {Spells : Toml.Value → α → Prop} {group name : String} {found : Option π}
    (read : Toml.readEntry? entries group ofToml? = some found)
    (table : document.entries? = some entries) (silent : field unsaid = none)
    (inGroup : ∀ ⦃settings patch⦄, ofToml? settings = some patch →
      Option.Rel Spells (settings.member? (ConfigKey.groupNames group) name) (field patch)) :
    Option.Rel Spells (document.inGroup? group name) (field (found.getD unsaid)) := by
  have stands : document.at? [group] = entries.lookup group := by
    simp only [Toml.Value.at?, table]
    cases entries.lookup group <;> rfl
  have settings := rel_of_readEntry read fun _ _ readable => inGroup readable
  rw [Toml.Value.inGroup?, stands]
  generalize entries.lookup group = inDocument at settings ⊢
  cases settings with
  | none =>
      rw [Option.getD_none, silent]
      exact .none
  | some stood => exact stood

/-- A text is read from its group if it stands there. -/
theorem rel_of_text {names : List String} {name : String} {found : Option String}
    (read : Toml.readEntry? entries name (·.text?) = some found)
    (group : value.group? names = some entries) (known : name ≠ Toml.Value.momentKey) :
    Option.Rel (fun written text => written = .string text) (value.member? names name) found := by
  rw [← Toml.Value.lookup_of_group? group known]
  exact rel_of_readEntry read fun _ _ => Toml.Value.eq_of_text?

theorem rel_of_number {names : List String} {name : String} {bound : Nat}
    {found : Option (Fin bound)}
    (read : Toml.readEntry? entries name (·.below? bound) = some found)
    (group : value.group? names = some entries) (known : name ≠ Toml.Value.momentKey) :
    Option.Rel (fun written number => written = .integer number.val) (value.member? names name)
      found := by
  rw [← Toml.Value.lookup_of_group? group known]
  exact rel_of_readEntry read fun _ _ => Toml.Value.eq_of_below?

theorem DatabasePatch.said {patch : DatabasePatch}
    (read : DatabasePatch.ofToml? value = some patch) :
    let stands := value.member? (ConfigKey.groupNames "database")
    Option.Rel ConfigKey.databaseUrl.Spells (stands "url") patch.url ∧
      Option.Rel ConfigKey.maxConnections.Spells (stands "max_connections")
        patch.maxConnections ∧
      Option.Rel ConfigKey.timeoutSecs.Spells (stands "timeout_secs") patch.timeoutSecs := by
  obtain ⟨inner, group, read⟩ := Option.bind_eq_some_iff.1 read
  obtain ⟨url, first, read⟩ := Option.bind_eq_some_iff.1 read
  obtain ⟨maxConnections, second, read⟩ := Option.bind_eq_some_iff.1 read
  obtain ⟨timeoutSecs, third, read⟩ := Option.bind_eq_some_iff.1 read
  cases read
  exact ⟨rel_of_text first group (by decide), rel_of_number second group (by decide),
    rel_of_number third group (by decide)⟩

theorem SlackPatch.said {patch : SlackPatch} (read : SlackPatch.ofToml? value = some patch) :
    let stands := value.member? (ConfigKey.groupNames "slack")
    Option.Rel ConfigKey.webhookUrl.Spells (stands "webhook_url") patch.webhookUrl ∧
      Option.Rel ConfigKey.teamDomain.Spells (stands "team_domain") patch.teamDomain ∧
      Option.Rel (fun written tokens => written.texts? = some tokens) (stands "command_tokens")
        patch.commandTokens := by
  obtain ⟨inner, group, read⟩ := Option.bind_eq_some_iff.1 read
  obtain ⟨webhookUrl, first, read⟩ := Option.bind_eq_some_iff.1 read
  obtain ⟨teamDomain, second, read⟩ := Option.bind_eq_some_iff.1 read
  obtain ⟨commandTokens, third, read⟩ := Option.bind_eq_some_iff.1 read
  cases read
  refine ⟨rel_of_text first group (by decide), rel_of_text second group (by decide), ?_⟩
  have known : "command_tokens" ≠ Toml.Value.momentKey := by decide
  exact Toml.Value.lookup_of_group? group known ▸ rel_of_readEntry third fun _ _ => id

theorem ServerPatch.said {patch : ServerPatch} (read : ServerPatch.ofToml? value = some patch) :
    let stands := value.member? (ConfigKey.groupNames "server")
    Option.Rel ConfigKey.bindAddress.Spells (stands "bind_address") patch.bindAddress ∧
      Option.Rel ConfigKey.port.Spells (stands "port") patch.port ∧
      Option.Rel ConfigKey.gracefulShutdownSecs.Spells (stands "graceful_shutdown_secs")
        patch.gracefulShutdownSecs := by
  obtain ⟨inner, group, read⟩ := Option.bind_eq_some_iff.1 read
  obtain ⟨bindAddress, first, read⟩ := Option.bind_eq_some_iff.1 read
  obtain ⟨port, second, read⟩ := Option.bind_eq_some_iff.1 read
  obtain ⟨gracefulShutdownSecs, third, read⟩ := Option.bind_eq_some_iff.1 read
  cases read
  exact ⟨rel_of_text first group (by decide), rel_of_number second group (by decide),
    rel_of_number third group (by decide)⟩

theorem LoggingPatch.said {patch : LoggingPatch} (read : LoggingPatch.ofToml? value = some patch) :
    let stands := value.member? (ConfigKey.groupNames "logging")
    Option.Rel ConfigKey.logLevel.Spells (stands "level") patch.level ∧
      Option.Rel ConfigKey.logFormat.Spells (stands "format") patch.format := by
  obtain ⟨inner, group, read⟩ := Option.bind_eq_some_iff.1 read
  obtain ⟨level, first, read⟩ := Option.bind_eq_some_iff.1 read
  obtain ⟨format, second, read⟩ := Option.bind_eq_some_iff.1 read
  cases read
  refine ⟨rel_of_text first group (by decide), ?_⟩
  have known : "format" ≠ Toml.Value.momentKey := by decide
  exact Toml.Value.lookup_of_group? group known ▸
    rel_of_readEntry second fun _ _ => Toml.Value.spells_of_logFormat?

end Groups

section Tokens

variable {α β : Type}

/-- What is read from the entries one by one is listed as they are. -/
theorem forall₂_of_mapM {read? : α → Option β} {entries : List (String × α)}
    {found : List (String × β)}
    (read : entries.mapM (fun entry => (read? entry.2).map ((entry.1, ·))) = some found) :
    List.Forall₂ (fun entry made => entry.1 = made.1 ∧ read? entry.2 = some made.2) entries
      found := by
  induction entries generalizing found with
  | nil =>
      cases read
      exact .nil
  | cons entry rest ih =>
      rw [List.mapM_cons] at read
      obtain ⟨first, readable, read⟩ := Option.bind_eq_some_iff.1 read
      obtain ⟨others, later, read⟩ := Option.bind_eq_some_iff.1 read
      obtain ⟨content, isRead, rfl⟩ := Option.map_eq_some_iff.1 readable
      cases read
      exact .cons ⟨rfl, isRead⟩ (ih later)

theorem rel_lookup {R : α → β → Prop} {entries : List (String × α)} {found : List (String × β)}
    (alike : List.Forall₂ (fun entry made => entry.1 = made.1 ∧ R entry.2 made.2) entries found)
    (name : String) : Option.Rel R (entries.lookup name) (found.lookup name) := by
  induction alike with
  | nil => exact .none
  | @cons entry made rest others same _ ih =>
      obtain ⟨named, content⟩ := same
      rw [Dictionary.lookup_cons_eq, Dictionary.lookup_cons_eq, named]
      split
      · exact .some content
      · exact ih

variable {value : Toml.Value} {tokens : Dictionary String}

/-- The dictionary of the texts in a table finds the last entry under each name. -/
theorem rel_find?_of_texts? {entries : Toml.Entries} (read : value.texts? = some tokens)
    (table : value.entries? = some entries) (name : String) :
    Option.Rel (fun written text => Toml.Value.text? written = some text)
      (entries.reverse.lookup name) (tokens.find? name) := by
  have texts : (entries.mapM fun entry => (Toml.Value.text? entry.2).map ((entry.1, ·))).bind
      (fun texts => some (Dictionary.ofList texts)) = some tokens := by
    cases value with
    | inlineTable _ | table _ _ =>
        cases table
        exact read
    | _ => cases table
  obtain ⟨found, readable, made⟩ := Option.bind_eq_some_iff.1 texts
  cases made
  rw [Dictionary.ofList, Dictionary.find?_putAll, Dictionary.find?_empty, Option.or_none]
  exact rel_lookup (List.forall₂_reverse_iff.2 (forall₂_of_mapM readable)) name

/-- That dictionary finds the texts that the table has. -/
theorem find?_of_texts? (read : value.texts? = some tokens) (name : String) :
    tokens.find? name = value.textUnder? name := by
  have ofTable {entries : Toml.Entries} (table : value.entries? = some entries) :
      tokens.find? name = match entries.reverse.lookup name with
        | some (.string text) => some text
        | _ => none := by
    have last := rel_find?_of_texts? read table name
    generalize entries.reverse.lookup name = stands at last ⊢
    generalize tokens.find? name = content at last ⊢
    cases last with
    | none => rfl
    | some text =>
        cases Toml.Value.eq_of_text? text
        rfl
  cases value with
  | moment content =>
      cases read
      exact Dictionary.find?_put .empty Toml.Value.momentKey name content.toText
  | inlineTable _ | table _ _ => exact ofTable rfl
  | _ => cases read

end Tokens

/-- The tokens that the file makes, under the names as they are spelled in it. -/
def ConfigPatch.tokens (patch : ConfigPatch) : Dictionary String :=
  patch.slack.commandTokens.getD {}

section Documents

variable {document : Toml.Value} {patch : ConfigPatch}

/-- A setting that is read is spelled at its place, and where one is not read nothing stands. -/
theorem ConfigPatch.said (read : ConfigPatch.ofToml? document = some patch) {key : ConfigKey}
    (scalar : ∀ robot, key ≠ .commandToken robot) :
    Option.Rel key.Spells (key.stands? document) (patch.at? key) := by
  obtain ⟨entries, table, read⟩ := Option.bind_eq_some_iff.1 read
  obtain ⟨database, readDatabase, read⟩ := Option.bind_eq_some_iff.1 read
  obtain ⟨slack, readSlack, read⟩ := Option.bind_eq_some_iff.1 read
  obtain ⟨server, readServer, read⟩ := Option.bind_eq_some_iff.1 read
  obtain ⟨logging, readLogging, read⟩ := Option.bind_eq_some_iff.1 read
  cases read
  cases key with
  | databaseUrl =>
      exact rel_of_group readDatabase table rfl fun _ _ read => (DatabasePatch.said read).1
  | maxConnections =>
      exact rel_of_group readDatabase table rfl fun _ _ read => (DatabasePatch.said read).2.1
  | timeoutSecs =>
      exact rel_of_group readDatabase table rfl fun _ _ read => (DatabasePatch.said read).2.2
  | webhookUrl =>
      exact rel_of_group readSlack table rfl fun _ _ read => (SlackPatch.said read).1
  | teamDomain =>
      exact rel_of_group readSlack table rfl fun _ _ read => (SlackPatch.said read).2.1
  | bindAddress =>
      exact rel_of_group readServer table rfl fun _ _ read => (ServerPatch.said read).1
  | port =>
      exact rel_of_group readServer table rfl fun _ _ read => (ServerPatch.said read).2.1
  | gracefulShutdownSecs =>
      exact rel_of_group readServer table rfl fun _ _ read => (ServerPatch.said read).2.2
  | logLevel =>
      exact rel_of_group readLogging table rfl fun _ _ read => (LoggingPatch.said read).1
  | logFormat =>
      exact rel_of_group readLogging table rfl fun _ _ read => (LoggingPatch.said read).2
  | commandToken robot => exact absurd rfl (scalar robot)

theorem ConfigPatch.rel_tokens (read : ConfigPatch.ofToml? document = some patch) :
    Option.Rel (fun written tokens => written.texts? = some tokens)
      (document.inGroup? "slack" "command_tokens") patch.slack.commandTokens := by
  obtain ⟨entries, table, read⟩ := Option.bind_eq_some_iff.1 read
  obtain ⟨database, readDatabase, read⟩ := Option.bind_eq_some_iff.1 read
  obtain ⟨slack, readSlack, read⟩ := Option.bind_eq_some_iff.1 read
  obtain ⟨server, readServer, read⟩ := Option.bind_eq_some_iff.1 read
  obtain ⟨logging, readLogging, read⟩ := Option.bind_eq_some_iff.1 read
  cases read
  exact rel_of_group readSlack table rfl fun _ _ read => (SlackPatch.said read).2.2

/-- The tokens that are read are those of the document. -/
theorem ConfigPatch.find?_tokens (read : ConfigPatch.ofToml? document = some patch)
    (name : String) : patch.tokens.find? name = document.token? name := by
  have tokens := ConfigPatch.rel_tokens read
  rw [ConfigPatch.tokens, Toml.Value.token?]
  generalize document.inGroup? "slack" "command_tokens" = stands at tokens ⊢
  generalize patch.slack.commandTokens = made at tokens ⊢
  cases tokens with
  | none => rfl
  | some texts => exact find?_of_texts? texts name

end Documents

/-- The document of a file, with values inserted. -/
def documentOf? (files : Files) (env : Environment) (path : String) : Option Toml.Value := do
  let text ← (files.readText path).toOption
  let inserted ← (interpolate env text).toOption
  Toml.parse? inserted

theorem toOption_of_mapError {ε ε' α : Type} {result : Except ε α} {reason : ε → ε'} {a : α}
    (ok : result.mapError reason = .ok a) : result.toOption = some a := by
  cases result with
  | error cause => cases ok
  | ok a' =>
      cases ok
      rfl

/-- The loader reads that document. -/
theorem readPatch_eq_ok {files : Files} {env : Environment} {path : String} {patch : ConfigPatch}
    (read : readPatch files env path = .ok patch) :
    ∃ document, documentOf? files env path = some document ∧
      ConfigPatch.ofToml? document = some patch := by
  obtain ⟨text, hasText, rest⟩ := bind_eq_ok read
  obtain ⟨inserted, hasInserted, rest⟩ := bind_eq_ok rest
  cases made : ConfigPatch.ofText? inserted with
  | none => rw [made] at rest; cases rest
  | some patch' =>
      rw [made] at rest
      cases rest
      obtain ⟨document, parsed, said⟩ := Option.bind_eq_some_iff.1 made
      refine ⟨document, ?_, said⟩
      rw [documentOf?, toOption_of_mapError hasText]
      show (interpolate env text).toOption.bind Toml.parse? = some document
      rw [toOption_of_mapError hasInserted]
      exact parsed

/-- The document of the file that is read; without a file it is an empty one. -/
inductive FileDocument (files : Files) (env : Environment) (options : LoadOptions) :
    Toml.Value → Prop where
  | read {path : String} {document : Toml.Value}
      (found : configPath? files options.path = some path)
      (parsed : documentOf? files env path = some document) :
      FileDocument files env options document
  | absent (missing : configPath? files options.path = none) :
      FileDocument files env options (.table {} [])

section Layers

variable {files : Files} {env : Environment} {options : LoadOptions}

/-- There is only one such document. -/
theorem FileDocument.unique {document other : Toml.Value}
    (file : FileDocument files env options document)
    (again : FileDocument files env options other) : document = other := by
  cases file with
  | read found parsed =>
      cases again with
      | read found' parsed' =>
          cases found.symm.trans found'
          exact Option.some.inj (parsed.symm.trans parsed')
      | absent missing => cases found.symm.trans missing
  | absent missing =>
      cases again with
      | read found _ => cases missing.symm.trans found
      | absent _ => rfl

/-- The settings of the file are read from its document. -/
theorem FileLayer.exists_document {patch : ConfigPatch}
    (layer : FileLayer files env options patch) :
    ∃ document, FileDocument files env options document ∧
      ConfigPatch.ofToml? document = some patch := by
  cases layer with
  | read found made =>
      obtain ⟨document, parsed, read⟩ := readPatch_eq_ok made
      exact ⟨document, .read found parsed, read⟩
  | absent missing => exact ⟨_, .absent missing, rfl⟩

end Layers

end ChatRobots
