/-
Module: ChatRobots.Proofs.Config.CommandTokens
Purpose: A token that the file or the environment gives is in the configuration.
Main exports: TokenGiven, Environment.mem_tokens_iff, Config.exists_token
-/
import ChatRobots.Proofs.Config.FileDocument
import ChatRobots.Proofs.Text.AsciiCase
import ChatRobots.Proofs.Text.Cutting

namespace ChatRobots

/-!
Tokens are given under names in whatever case, by a table of the file or by variables.  The
configuration keeps them under names in lower case, where a later one replaces an earlier one.  So
a name that was given is never without a token, and because every token has to keep its rule, none
of them is blank, whichever of the layers had the last word.
-/

/-- The file or the environment gives a token for the robot, the case of its letters aside. -/
inductive TokenGiven (files : Files) (env : Environment) (options : LoadOptions)
    (robot : String) : Prop where
  | byFile {document : Toml.Value} {name token : String}
      (file : FileDocument files env options document)
      (given : document.token? name = some token)
      (same : Text.asciiLowercase name = Text.asciiLowercase robot)
  | byVariable {name token : String}
      (given : env.setting? (tokenVariableLead ++ name) = some token)
      (same : Text.asciiLowercase name = Text.asciiLowercase robot)

theorem isSome_lastToken? {tokens : List (String × String)} {robot : String} :
    (lastToken? tokens robot).isSome ↔
      ∃ entry ∈ tokens, Text.asciiLowercase entry.1 = robot := by
  simp [lastToken?, List.find?_isSome]

namespace Environment

variable {env : Environment}

/-- The tokens of the environment: those of variables with a name behind the lead, not blank. -/
theorem mem_tokens_iff {robot token : String} :
    (robot, token) ∈ env.tokens ↔
      robot ≠ "" ∧ Text.isBlankText token = false
        ∧ (tokenVariableLead ++ robot, token) ∈ env.bindings := by
  rw [tokens, List.mem_filterMap]
  constructor
  · rintro ⟨⟨name, value⟩, bound, taken⟩
    dsimp only at taken
    split at taken
    · rename_i c rest after
      split at taken
      · cases taken
      · rename_i solid
        cases taken
        have spelled := Text.afterLead?_eq_some_iff.1 after
        refine ⟨?_, Bool.eq_false_iff.2 solid, spelled ▸ bound⟩
        intro empty
        rw [← String.toList_inj, String.toList_ofList] at empty
        cases empty
    · cases taken
  · rintro ⟨named, solid, bound⟩
    refine ⟨_, bound, ?_⟩
    have after : Text.afterLead? tokenVariableLead.toList (tokenVariableLead ++ robot).toList =
        some robot.toList := by
      rw [Text.afterLead?_eq_some_iff, String.ofList_toList]
    cases chars : robot.toList with
    | nil => exact absurd (String.toList_inj.1 chars) named
    | cons c rest =>
        have spelled : String.ofList (c :: rest) = robot := by
          rw [← chars, String.ofList_toList]
        rw [chars] at after
        dsimp only
        rw [after, solid]
        exact congrArg (fun name => some (name, token)) spelled

end Environment

namespace Config

variable {files : Files} {env : Environment} {options : LoadOptions} {config : Config}

/-- No token in force is blank. -/
theorem not_isBlankText_token (loaded : Config.load files env options = .ok config)
    {robot token : String} (found : config.slack.commandTokens.find? robot = some token) :
    Text.isBlankText token = false := by
  obtain ⟨_, _, _, _, _, kept⟩ := Config.load_eq_ok loaded
  have rule : (ConfigRule.tokenGiven robot, !Text.isBlankText token) ∈ config.rules := by
    rw [rules, List.mem_append, List.mem_append]
    exact .inl (.inr (List.mem_map.2 ⟨_, mem_of_lookup found, rfl⟩))
  simpa using kept _ rule

/-- The tokens in force are those of the environment over those of the file. -/
theorem find?_commandTokens (loaded : Config.load files env options = .ok config)
    {patch : ConfigPatch} (layer : FileLayer files env options patch) (robot : String) :
    config.slack.commandTokens.find? robot =
      ((lastToken? env.tokens robot).or
        (lastToken? (patch.slack.commandTokens.getD {}).entries robot)).map (·.2) := by
  obtain ⟨_, made, layer', applied, rfl, _⟩ := Config.load_eq_ok loaded
  cases layer.unique layer'
  have inForce : made.slack.commandTokens.find? robot = _ :=
    Environment.at_apply applied (.commandToken robot)
  have ofFile : ((patch.apply defaults).slack.commandTokens).find? robot = _ :=
    ConfigPatch.at_apply patch defaults (.commandToken robot)
  show made.slack.commandTokens.find? robot = _
  rw [inForce, Environment.taken?]
  cases lastToken? env.tokens robot with
  | some entry => rfl
  | none =>
      show ((patch.apply defaults).slack.commandTokens).find? robot = _
      rw [ofFile, Option.none_or]
      exact Option.or_none

/-- A robot for which a token is given has one in force, and it is not blank. -/
theorem exists_token (loaded : Config.load files env options = .ok config) {robot : String}
    (named : robot ≠ "") (given : TokenGiven files env options robot) :
    ∃ token, config.slack.commandTokens.find? (Text.asciiLowercase robot) = some token
      ∧ Text.isBlankText token = false := by
  obtain ⟨patch, _, layer, -⟩ := Config.load_eq_ok loaded
  have known : ((lastToken? env.tokens (Text.asciiLowercase robot)).or
      (lastToken? (patch.slack.commandTokens.getD {}).entries
        (Text.asciiLowercase robot))).isSome := by
    rw [Option.isSome_or, Bool.or_eq_true, isSome_lastToken?, isSome_lastToken?]
    cases given with
    | @byFile document name token file given same =>
        obtain ⟨document', file', read⟩ := layer.exists_document
        cases file.unique file'
        rw [← ConfigPatch.find?_tokens read] at given
        exact .inr ⟨(name, token), mem_of_lookup given, same⟩
    | @byVariable name token given same =>
        obtain ⟨set, solid⟩ := Option.filter_eq_some_iff.1 given
        have nameless : name ≠ "" := by
          rintro rfl
          exact named (Text.asciiLowercase_eq_empty_iff.1 same.symm)
        refine .inl ⟨(name, token), ?_, same⟩
        exact Environment.mem_tokens_iff.2
          ⟨nameless, by simpa using solid, mem_of_lookup set⟩
  obtain ⟨entry, found⟩ := Option.isSome_iff_exists.1 known
  have inForce := find?_commandTokens loaded layer (Text.asciiLowercase robot)
  rw [found] at inForce
  exact ⟨entry.2, inForce, not_isBlankText_token loaded inForce⟩

end Config

end ChatRobots
