/-
Module: ChatRobots.Proofs.Settings.FiniteMap
Purpose: Both settings stores answer as one finite map from pairs of user and name.
Main exports: Call, CallAnswer, kept, Tells, Faithful.run_call, stores_answer_as_finite_map
-/
import ChatRobots.Proofs.CallRuns
import ChatRobots.Proofs.Settings.Faithful

namespace ChatRobots.Settings

/-!
What a store keeps is told here without a store: from the calls made so far, the last one that
wrote under a name of a user decides what is there.  The answer to each kind of call is told from
this map alone.  That a listing has each name once, in the order of the bytes, leaves it no choice.
-/

/-- A call of a settings store. -/
inductive Call where
  | list (user : String)
  | get (user name : String)
  | set (user name value : String)
  | remove (user name : String)
deriving DecidableEq, Repr

/-- What a call answers when it does not fail. -/
inductive CallAnswer where
  | settings (settings : List Setting)
  | setting? (setting : Option Setting)
  | setting (setting : Setting)
  | removed (wasThere : Bool)
deriving DecidableEq

namespace Call

/-- Make the call. -/
def run {σ : Type} (store : Backend σ) : Call → Act σ CallAnswer
  | list user => .settings <$> store.list user
  | get user name => .setting? <$> store.get user name
  | set user name value => .setting <$> store.set user name value
  | remove user name => .removed <$> store.remove user name

/-- What the call leaves under a name of a user, when it writes there: a value or nothing. -/
def written? (user name : String) : Call → Option (Option String)
  | set user' name' value => if user' = user ∧ name' = name then some (some value) else none
  | remove user' name' => if user' = user ∧ name' = name then some none else none
  | list _ => none
  | get _ _ => none

end Call

/-- What the calls leave under a name of a user: what the last one left that wrote there. -/
def kept (calls : List Call) (user name : String) : Option String :=
  (calls.reverse.findSome? (·.written? user name)).join

theorem kept_append_singleton (calls : List Call) (call : Call) (user name : String) :
    kept (calls ++ [call]) user name = (call.written? user name).getD (kept calls user name) := by
  rw [kept, List.reverse_append, List.reverse_singleton, List.singleton_append, List.findSome?_cons]
  cases call.written? user name with
  | none => rfl
  | some _ => rfl

/-- The call is answered as by a finite map with these values. -/
inductive Tells (values : String → String → Option String) : Call → CallAnswer → Prop where
  /-- Each name that the user has, once and in the order of the bytes, with its value. -/
  | settings {user : String} {listed : List Setting}
      (mem_iff : ∀ setting, setting ∈ listed ↔
        setting.user = user ∧ values user setting.name = some setting.value)
      (rising : listed.Pairwise fun a b => Text.encodeUtf8 a.name < Text.encodeUtf8 b.name) :
      Tells values (.list user) (.settings listed)
  | setting? (user name : String) :
      Tells values (.get user name) (.setting? ((values user name).map (⟨user, name, ·⟩)))
  | setting (user name value : String) :
      Tells values (.set user name value) (.setting ⟨user, name, value⟩)
  | removed (user name : String) :
      Tells values (.remove user name) (.removed (values user name).isSome)

namespace Call

/-- The answer that the dictionaries of the users give. -/
def answer (own : String → Dictionary String) : Call → CallAnswer
  | list user => .settings (settingsOf user (own user))
  | get user name => .setting? (((own user).find? name).map (⟨user, name, ·⟩))
  | set user name value => .setting ⟨user, name, value⟩
  | remove user name => .removed ((own user).find? name).isSome

/-- The dictionaries of the users after the call. -/
def after (own : String → Dictionary String) : Call → String → Dictionary String
  | set user name value => Function.update own user ((own user).put name value)
  | remove user name => Function.update own user ((own user).erase name)
  | list _ => own
  | get _ _ => own

theorem find?_update (own : String → Dictionary String) (user user' : String)
    (entries : Dictionary String) (name : String) :
    (Function.update own user entries user').find? name =
      if user = user' then entries.find? name else (own user').find? name := by
  by_cases same : user' = user
  · subst same
    rw [Function.update_self, if_pos rfl]
  · rw [Function.update_of_ne same, if_neg (Ne.symm same)]

/-- A call changes what is found under the name that it writes, and nothing else. -/
theorem find?_after (own : String → Dictionary String) (call : Call) (user name : String) :
    (call.after own user).find? name =
      (call.written? user name).getD ((own user).find? name) := by
  cases call with
  | list _ => rfl
  | get _ _ => rfl
  | set user' name' value =>
      simp only [after, written?, find?_update, Dictionary.find?_put, eq_comm (a := name)]
      by_cases own : user' = user
      · subst own
        by_cases same : name' = name <;> simp [same]
      · simp [own]
  | remove user' name' =>
      simp only [after, written?, find?_update, Dictionary.find?_erase, eq_comm (a := name)]
      by_cases own : user' = user
      · subst own
        by_cases same : name' = name <;> simp [same]
      · simp [own]

/-- Dictionaries answer as the map that they are. -/
theorem tells_answer (own : String → Dictionary String) (call : Call) :
    Tells (fun user name => (own user).find? name) call (call.answer own) := by
  cases call with
  | list user =>
      refine .settings (fun setting => mem_settingsOf) ?_
      rw [settingsOf, List.pairwise_map]
      exact (own user).sorted.imp Text.encodeUtf8_lt
  | get user name => exact .setting? user name
  | set user name value => exact .setting user name value
  | remove user name => exact .removed user name

end Call

section Stores

variable {σ : Type} {store : Backend σ}

/-- A store that keeps dictionaries answers from them, and changes them as the call says. -/
theorem Faithful.run_call (faithful : Faithful store) {s : σ} (sound : faithful.Sound s)
    (call : Call) : ∃ after, call.run store s = (.ok (call.answer (faithful.own s)), after) ∧
      faithful.Sound after ∧ faithful.own after = call.after (faithful.own s) := by
  cases call with
  | list user => exact ⟨s, run_map_of_ok (faithful.list sound user) CallAnswer.settings, sound, rfl⟩
  | get user name =>
      exact ⟨s, run_map_of_ok (faithful.get sound user name) CallAnswer.setting?, sound, rfl⟩
  | set user name value =>
      obtain ⟨after, wrote, writes⟩ := faithful.set sound user name value
      exact ⟨after, run_map_of_ok wrote CallAnswer.setting, writes.sound, writes.own_eq⟩
  | remove user name =>
      obtain ⟨after, removed, writes⟩ := faithful.remove sound user name
      exact ⟨after, run_map_of_ok removed CallAnswer.removed, writes.sound, writes.own_eq⟩

/-- After a run from a store without settings, the dictionaries hold what the calls have left. -/
theorem Faithful.kept_after (faithful : Faithful store) {start : σ} (sound : faithful.Sound start)
    (empty : ∀ user, faithful.own start user = .empty) (calls : List Call) :
    let after := (Act.runAll (Call.run store) calls start).2
    faithful.Sound after ∧
      (fun user name => (faithful.own after user).find? name) = kept calls := by
  refine Act.runAll_reaches (fun calls s => faithful.Sound s ∧
    (fun user name => (faithful.own s user).find? name) = kept calls) ⟨sound, ?_⟩ ?_ calls
  · funext user name
    rw [empty]
    rfl
  · rintro earlier s call ⟨sound, same⟩
    obtain ⟨after, ran, sound', own'⟩ := faithful.run_call sound call
    rw [ran]
    refine ⟨sound', ?_⟩
    funext user name
    rw [own', Call.find?_after, kept_append_singleton, ← same]

/-- Stores with the same dictionaries answer all calls alike. -/
theorem Faithful.runAll_eq {τ : Type} {store' : Backend τ} (faithful : Faithful store)
    (faithful' : Faithful store') {start : σ} {start' : τ} (sound : faithful.Sound start)
    (sound' : faithful'.Sound start') (same : faithful.own start = faithful'.own start')
    (calls : List Call) : (Act.runAll (Call.run store) calls start).1 =
      (Act.runAll (Call.run store') calls start').1 := by
  apply Act.runAll_alike (fun s s' => faithful.Sound s ∧ faithful'.Sound s' ∧
    faithful.own s = faithful'.own s') calls ⟨sound, sound', same⟩
  rintro call - s s' ⟨sound, sound', same⟩
  obtain ⟨after, ran, soundAfter, ownAfter⟩ := faithful.run_call sound call
  obtain ⟨after', ran', soundAfter', ownAfter'⟩ := faithful'.run_call sound' call
  rw [ran, ran', same]
  refine ⟨rfl, soundAfter, soundAfter', ?_⟩
  rw [ownAfter, ownAfter', same]

end Stores

/-- Memory and database, both empty at first, give the same answers to all calls, one to each,
and a call is answered from what the calls before it have left. -/
theorem stores_answer_as_finite_map (calls : List Call) :
    let answers := (Act.runAll (Call.run Memory.backend) calls {}).1
    (Act.runAll (Call.run Database.settingsBackend) calls {}).1 = answers ∧
      answers.length = calls.length ∧
      ∀ place : Fin calls.length, ∃ answer, answers[place.val]? = some (.ok answer) ∧
        Tells (kept (calls.take place)) calls[place] answer := by
  have inMemory : Memory.faithful.Sound {} := List.nodup_nil
  have inDatabase : Database.settingsFaithful.Sound {} := ⟨rfl, List.nodup_nil⟩
  refine ⟨?_, Act.length_runAll calls _, fun place => ?_⟩
  · exact Database.settingsFaithful.runAll_eq Memory.faithful inDatabase inMemory rfl calls
  · obtain ⟨sound, same⟩ :=
      Memory.faithful.kept_after inMemory (fun _ => rfl) (calls.take place)
    obtain ⟨after, ran, -⟩ := Memory.faithful.run_call sound calls[place]
    refine ⟨_, ?_, same ▸ Call.tells_answer _ calls[place]⟩
    rw [Act.getElem?_runAll, ran]

end ChatRobots.Settings
