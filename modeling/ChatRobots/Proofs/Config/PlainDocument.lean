/-
Module: ChatRobots.Proofs.Config.PlainDocument
Purpose: What the loader reads of a plain document is what stands at the places of the settings.
Main exports: Toml.Value.Plain, ConfigKey.pieces_name, ConfigPatch.isSome_at?_of_toml,
  Toml.Value.Plain.undotted
-/
import ChatRobots.Config.Report
import ChatRobots.Proofs.Config.CommandTokens

namespace ChatRobots

/-!
The loader reads a document into a record of options, group by group, while the report looks for
the name of a setting in the document.  In a plain document the two agree: the groups are tables,
the tokens are a table as well, and their names are in lower case and without dots.  Everything
else a document may look like is read by the loader and not found by the report: a group that is
written as an array, a name with a capital, a name with a dot.
-/

namespace Toml

theorem Value.at?_cons (value : Value) (key : String) (path : List String) :
    value.at? (key :: path) = (value.entries?.bind (·.lookup key)).bind (·.at? path) := by
  rw [Value.at?]
  cases value.entries? with
  | none => rfl
  | some entries =>
      rw [Option.bind_some]
      dsimp only
      cases entries.lookup key <;> rfl

theorem Value.at?_append (first : List String) (second : List String) (value : Value) :
    value.at? (first ++ second) = (value.at? first).bind (·.at? second) := by
  induction first generalizing value with
  | nil => rfl
  | cons key path ih =>
      simp only [List.cons_append, Value.at?_cons, Option.bind_assoc, ih]

/-- Of the entries of a table, the one under this name. -/
theorem Value.at?_singleton {value : Value} {entries : Entries}
    (table : value.entries? = some entries) (name : String) :
    value.at? [name] = entries.lookup name := by
  rw [Value.at?_cons, table]
  exact Option.bind_fun_some (entries.lookup name)

/-- The groups are tables, and the tokens a table with names in lower case and without dots. -/
structure Value.Plain (document : Value) : Prop where
  groups : ∀ group ∈ ["database", "slack", "server", "logging"],
    ∀ value ∈ document.at? [group], value.entries?.isSome
  tokens : ∀ value ∈ document.at? ["slack", "command_tokens"], ∃ entries ∈ value.entries?,
    ∀ entry ∈ entries, Text.asciiLowercase entry.1 = entry.1 ∧ '.' ∉ entry.1.toList

instance (document : Value) : Decidable document.Plain :=
  decidable_of_iff
    ((∀ group ∈ ["database", "slack", "server", "logging"],
        ∀ value ∈ document.at? [group], value.entries?.isSome) ∧
      ∀ value ∈ document.at? ["slack", "command_tokens"], ∃ entries ∈ value.entries?,
        ∀ entry ∈ entries, Text.asciiLowercase entry.1 = entry.1 ∧ '.' ∉ entry.1.toList)
    ⟨fun ⟨groups, tokens⟩ => ⟨groups, tokens⟩, fun plain => ⟨plain.groups, plain.tokens⟩⟩

end Toml

/-- The name of the setting leads to its place, unless a robot's name has a dot. -/
theorem ConfigKey.pieces_name {key : ConfigKey}
    (undotted : ∀ robot, key = .commandToken robot → '.' ∉ robot.toList) :
    (Text.pieces '.' key.name.toList).map String.ofList = key.place := by
  cases key with
  | commandToken robot =>
      have chars : (commandToken robot).name.toList =
          "slack.command_tokens.".toList ++ robot.toList := String.toList_append
      have lead : Text.pieces '.' ("slack.command_tokens.".toList ++ robot.toList) =
          "slack".toList :: "command_tokens".toList :: Text.pieces '.' robot.toList := by
        simp [Text.pieces]
      rw [chars, lead, Text.pieces_eq_self (undotted robot rfl)]
      simp [place]
  | _ => rfl

/-- Two partial readings that are related stop together. -/
theorem isSome_eq_of_rel {α β : Type} {R : α → β → Prop} {a : Option α} {b : Option β}
    (rel : Option.Rel R a b) : a.isSome = b.isSome := by
  cases rel <;> rfl

section Plain

variable {document : Toml.Value}

/-- In a group that is a table, a name leads to what the group has under it. -/
theorem Toml.Value.Plain.inGroup?_eq (plain : document.Plain) {group : String}
    (known : group ∈ ["database", "slack", "server", "logging"]) (name : String) :
    document.inGroup? group name = document.at? [group, name] := by
  have deeper : document.at? [group, name] = _ := at?_append [group] [name] document
  rw [deeper, inGroup?]
  cases stands : document.at? [group] with
  | none => rfl
  | some settings =>
      obtain ⟨entries, table⟩ :=
        Option.isSome_iff_exists.1 (plain.groups group known settings stands)
      rw [Option.bind_some, Option.bind_some, at?_singleton table, member?, table]

/-- The place of every setting leads to what stands there. -/
theorem Toml.Value.Plain.stands?_eq (plain : document.Plain) (key : ConfigKey) :
    key.stands? document = document.at? key.place := by
  cases key with
  | databaseUrl | maxConnections | timeoutSecs => exact plain.inGroup?_eq (by decide) _
  | webhookUrl | teamDomain => exact plain.inGroup?_eq (by decide) _
  | bindAddress | port | gracefulShutdownSecs => exact plain.inGroup?_eq (by decide) _
  | logLevel | logFormat => exact plain.inGroup?_eq (by decide) _
  | commandToken robot =>
      have deeper : document.at? ["slack", "command_tokens", robot] = _ :=
        at?_append ["slack", "command_tokens"] [robot] document
      rw [ConfigKey.stands?, ConfigKey.place]
      dsimp only
      rw [plain.inGroup?_eq (by decide), deeper]

/-- The dictionary of the texts in a table has the names of the table. -/
theorem mem_keys_of_texts? {value : Toml.Value} {entries : Toml.Entries}
    {tokens : Dictionary String} (read : value.texts? = some tokens)
    (table : value.entries? = some entries) (name : String) :
    name ∈ tokens.keys ↔ name ∈ entries.map (·.1) := by
  rw [Dictionary.mem_keys_iff, ← isSome_eq_of_rel (rel_find?_of_texts? read table name),
    isSome_lookup_iff, List.map_reverse, List.mem_reverse]

/-- In a plain table of tokens a robot's token stands under its name. -/
theorem isSome_lastToken?_of_texts? {value : Toml.Value} {entries : Toml.Entries}
    {tokens : Dictionary String} (read : value.texts? = some tokens)
    (table : value.entries? = some entries)
    (lower : ∀ entry ∈ entries, Text.asciiLowercase entry.1 = entry.1) (robot : String) :
    (lastToken? tokens.entries robot).isSome ↔ (entries.lookup robot).isSome := by
  have named := mem_keys_of_texts? read table
  rw [isSome_lastToken?, isSome_lookup_iff]
  constructor
  · rintro ⟨entry, mem, same⟩
    obtain ⟨inFile, mem, name⟩ := List.mem_map.1 ((named entry.1).1 (List.mem_map_of_mem mem))
    rw [← same, ← name, lower inFile mem]
    exact List.mem_map_of_mem mem
  · intro mem
    obtain ⟨inFile, inFileMem, name⟩ := List.mem_map.1 mem
    obtain ⟨entry, entryMem, same⟩ := List.mem_map.1 ((named robot).2 mem)
    refine ⟨entry, entryMem, ?_⟩
    rw [same, ← name, lower inFile inFileMem]

theorem ConfigPatch.isSome_token_of_toml {patch : ConfigPatch}
    (read : ConfigPatch.ofToml? document = some patch) (plain : document.Plain) (robot : String) :
    (lastToken? patch.tokens.entries robot).isSome =
      (document.at? ["slack", "command_tokens", robot]).isSome := by
  have deeper : document.at? ["slack", "command_tokens", robot] = _ :=
    Toml.Value.at?_append ["slack", "command_tokens"] [robot] document
  have tokens := ConfigPatch.rel_tokens read
  have table := plain.tokens
  rw [plain.inGroup?_eq (by decide)] at tokens
  rw [deeper, ConfigPatch.tokens]
  generalize document.at? ["slack", "command_tokens"] = stands at tokens table ⊢
  generalize patch.slack.commandTokens = made at tokens ⊢
  cases tokens with
  | none => rfl
  | some texts =>
      obtain ⟨entries, isTable, names⟩ := table _ rfl
      have lower := isSome_lastToken?_of_texts? texts isTable fun entry mem => (names entry mem).1
      rw [Option.bind_some, Toml.Value.at?_singleton isTable]
      exact Bool.eq_iff_iff.2 (lower robot)

/-- In a plain document the file says what stands at the setting's place. -/
theorem ConfigPatch.isSome_at?_of_toml {patch : ConfigPatch}
    (read : ConfigPatch.ofToml? document = some patch) (plain : document.Plain)
    (key : ConfigKey) : (patch.at? key).isSome = (document.at? key.place).isSome := by
  by_cases token : ∃ robot, key = .commandToken robot
  · obtain ⟨robot, rfl⟩ := token
    exact Option.isSome_map.trans (ConfigPatch.isSome_token_of_toml read plain robot)
  · rw [← plain.stands?_eq]
    exact (isSome_eq_of_rel (ConfigPatch.said read fun robot same => token ⟨robot, same⟩)).symm

/-- Where a plain document has a robot's token, the robot's name is without dots. -/
theorem Toml.Value.Plain.undotted (plain : document.Plain) {robot : String}
    (stands : (document.at? (ConfigKey.commandToken robot).place).isSome) :
    '.' ∉ robot.toList := by
  have deeper : document.at? (ConfigKey.commandToken robot).place = _ :=
    Toml.Value.at?_append ["slack", "command_tokens"] [robot] document
  rw [deeper] at stands
  obtain ⟨token, found⟩ := Option.isSome_iff_exists.1 stands
  obtain ⟨tokens, there, found⟩ := Option.bind_eq_some_iff.1 found
  obtain ⟨entries, table, names⟩ := plain.tokens tokens there
  rw [Toml.Value.at?_singleton table] at found
  have listed : robot ∈ entries.map (·.1) := by
    rw [← isSome_lookup_iff, found]
    rfl
  obtain ⟨entry, mem, rfl⟩ := List.mem_map.1 listed
  exact (names entry mem).2

end Plain

end ChatRobots
