/-
Module: ChatRobots.Proofs.Config.Provenance
Purpose: Which layer a value in force comes from.
Main exports: Supplied, Supplied.unique, Config.exists_supplied, Config.at_of_load
-/
import ChatRobots.Config.Report
import ChatRobots.Proofs.Config.Layers

namespace ChatRobots

/-!
The loader keeps no record of where it takes a value from, so its sources are defined here, by
what the layers hold: a variable supplies a value when the environment takes it for the setting,
the file when no variable is taken and the file says something, and the defaults are left.  Each
case carries the value, and that it is the one in force.  Every setting of a configuration that is
loaded has exactly one source.
-/

/-- The layer that supplied the value in force of a setting. -/
inductive Supplied (files : Files) (env : Environment) (config : Config) (key : ConfigKey) :
    ValueSource → Prop where
  | environment {name text : String} {value : key.Value}
      (taken : env.taken? key = some (name, text)) (reads : key.read? text = some value)
      (inForce : config.at key = some value) :
      Supplied files env config key (.environment name)
  | file {path : String} {patch : ConfigPatch} {value : key.Value}
      (untaken : env.taken? key = none) (found : configPath? files none = some path)
      (made : readPatch files env path = .ok patch) (said : patch.at? key = some value)
      (inForce : config.at key = some value) : Supplied files env config key (.file path)
  | byDefault {patch : ConfigPatch}
      (untaken : env.taken? key = none) (layer : FileLayer files env {} patch)
      (silent : patch.at? key = none) (inForce : config.at key = Config.defaults.at key) :
      Supplied files env config key .byDefault

variable {files : Files} {env : Environment} {config : Config} {key : ConfigKey}

/-- The layers of a configuration without demands of the caller, read at one setting. -/
theorem Config.at_of_load (loaded : Config.load files env {} = .ok config) {patch : ConfigPatch}
    (layer : FileLayer files env {} patch) (key : ConfigKey) :
    config.at key = match env.taken? key with
      | some (_, text) => key.read? text
      | none => (patch.at? key).or (Config.defaults.at key) := by
  have undemanded : ({} : LoadOptions).overrides.at? key = none := by
    cases key <;> rfl
  rw [at_eq_of_load loaded layer key, undemanded]
  exact Option.none_or

theorem Config.isSome_at_of_taken (loaded : Config.load files env {} = .ok config)
    (taken : (env.taken? key).isSome) : (config.at key).isSome := by
  obtain ⟨_, made, _, applied, rfl, -⟩ := Config.load_eq_ok loaded
  exact Environment.isSome_at_apply applied taken

namespace Supplied

theorem of_taken (loaded : Config.load files env {} = .ok config) {name text : String}
    (taken : env.taken? key = some (name, text)) :
    Supplied files env config key (.environment name) := by
  obtain ⟨_, _, layer, -⟩ := Config.load_eq_ok loaded
  have present : (config.at key).isSome := by
    apply Config.isSome_at_of_taken loaded
    rw [taken]
    rfl
  obtain ⟨value, inForce⟩ := Option.isSome_iff_exists.1 present
  have reads := Config.at_of_load loaded layer key
  rw [taken, inForce] at reads
  exact .environment taken reads.symm inForce

theorem of_said (loaded : Config.load files env {} = .ok config)
    (untaken : env.taken? key = none) {path : String} {patch : ConfigPatch}
    (found : configPath? files none = some path) (made : readPatch files env path = .ok patch)
    (said : (patch.at? key).isSome) : Supplied files env config key (.file path) := by
  obtain ⟨value, said⟩ := Option.isSome_iff_exists.1 said
  have inForce := Config.at_of_load loaded (.read found made) key
  rw [untaken, said] at inForce
  exact .file untaken found made said inForce

theorem of_silent (loaded : Config.load files env {} = .ok config)
    (untaken : env.taken? key = none) {patch : ConfigPatch}
    (layer : FileLayer files env {} patch) (silent : patch.at? key = none) :
    Supplied files env config key .byDefault := by
  have inForce := Config.at_of_load loaded layer key
  rw [untaken, silent] at inForce
  exact .byDefault untaken layer silent inForce

/-- No value comes from two layers. -/
theorem unique {source other : ValueSource} (supplied : Supplied files env config key source)
    (again : Supplied files env config key other) : source = other := by
  cases supplied with
  | environment taken =>
      cases again with
      | environment taken' => cases taken.symm.trans taken'; rfl
      | file untaken => cases taken.symm.trans untaken
      | byDefault untaken => cases taken.symm.trans untaken
  | file untaken found made said =>
      cases again with
      | environment taken => cases taken.symm.trans untaken
      | file _ found' => cases found.symm.trans found'; rfl
      | byDefault _ layer silent =>
          cases layer.unique (.read found made)
          cases said.symm.trans silent
  | byDefault untaken layer silent =>
      cases again with
      | environment taken => cases taken.symm.trans untaken
      | file _ found made said =>
          cases layer.unique (.read found made)
          cases said.symm.trans silent
      | byDefault => rfl

end Supplied

/-- Every value comes from some layer. -/
theorem Config.exists_supplied (loaded : Config.load files env {} = .ok config)
    (key : ConfigKey) : ∃ source, Supplied files env config key source := by
  obtain ⟨patch, _, layer, -⟩ := Config.load_eq_ok loaded
  cases taken : env.taken? key with
  | some entry => exact ⟨_, .of_taken loaded taken⟩
  | none =>
      cases said : patch.at? key with
      | none => exact ⟨_, .of_silent loaded taken layer said⟩
      | some value =>
          cases layer with
          | read found made =>
              exact ⟨_, .of_said loaded taken found made (said ▸ rfl)⟩
          | absent _ =>
              cases key <;> cases said

end ChatRobots
