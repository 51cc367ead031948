/-
Module: ChatRobots.Proofs.Settings.Entries
Purpose: What the settings stores hold under a name, in every state they can be in.
Main exports: valueOf, valueOf_update_eq, EntryWise, EntryWise.within, Memory.entryWise,
  Database.settingsEntryWise
-/
import ChatRobots.Proofs.Settings.Faithful

namespace ChatRobots

/-!
A store holds under a user and a name the value of the first entry that has both.  Told entry by
entry, a store needs no invariant: a list of settings may name a pair twice, and still a value that
is put in is the one found afterwards, a name that is taken out is not found any more, and no other
pair is touched.  All that a call asks of the state is that the store can be used at all, which a
closed pool cannot.
-/

namespace Settings

/-- A call that wrote this value, or took it away, has changed no other entry. -/
abbrev Wrote (user name : String) (value? : Option String)
    (before after : String × String → Option String) : Prop :=
  after = Function.update before (user, name) value?

/-- A store told entry by entry: what its calls answer, and what they write. -/
structure EntryWise {σ : Type} (store : Backend σ) where
  value? : σ → String × String → Option String
  Usable : σ → Prop
  get {s : σ} (usable : Usable s) (user name : String) :
    store.get user name s = (.ok ((value? s (user, name)).map (⟨user, name, ·⟩)), s)
  list {s : σ} (usable : Usable s) (user : String) :
    ∃ settings, store.list user s = (.ok settings, s) ∧
      ∀ name, name ∈ settings.map Setting.name ↔ (value? s (user, name)).isSome
  set {s : σ} (usable : Usable s) (user name value : String) :
    ∃ after, store.set user name value s = (.ok ⟨user, name, value⟩, after) ∧ Usable after ∧
      Wrote user name (some value) (value? s) (value? after)
  remove {s : σ} (usable : Usable s) (user name : String) :
    ∃ after, store.remove user name s = (.ok (value? s (user, name)).isSome, after) ∧
      Usable after ∧ Wrote user name none (value? s) (value? after)
  /-- Only a store that can be used sets anything. -/
  usable_of_set {s : σ} {user name value : String} {setting : Setting}
    (done : (store.set user name value s).1 = .ok setting) : Usable s

section Parts

variable {σ τ : Type} {store : Backend σ} {get : τ → σ} {set : σ → τ → τ}

/-- The larger state has the entries of its part. -/
def EntryWise.within (entryWise : EntryWise store)
    (get_set : ∀ part whole, get (set part whole) = part)
    (set_get : ∀ whole, set (get whole) whole = whole) : EntryWise (store.within get set) where
  value? whole := entryWise.value? (get whole)
  Usable whole := entryWise.Usable (get whole)
  get usable user name := Act.ask_within set_get (entryWise.get usable user name)
  list usable user := by
    obtain ⟨settings, listed, names⟩ := entryWise.list usable user
    exact ⟨settings, Act.ask_within set_get listed, names⟩
  set usable user name value := by
    obtain ⟨part, done, still, wrote⟩ := entryWise.set usable user name value
    refine ⟨_, Act.run_within done, ?_⟩
    rw [get_set]
    exact ⟨still, wrote⟩
  remove usable user name := by
    obtain ⟨part, done, still, wrote⟩ := entryWise.remove usable user name
    refine ⟨_, Act.run_within done, ?_⟩
    rw [get_set]
    exact ⟨still, wrote⟩
  usable_of_set done := entryWise.usable_of_set done

end Parts

section Lists

variable {settings : List Setting} {setting : Setting} {user name value : String}

/-- The value of the first setting of this user under this name. -/
def valueOf (settings : List Setting) (key : String × String) : Option String :=
  (settings.find? (·.isOf key.1 key.2)).map (·.value)

theorem isOf_eq_decide (setting : Setting) (key : String × String) :
    setting.isOf key.1 key.2 = decide (key = setting.key) := by
  rw [Bool.eq_iff_iff, Setting.isOf_iff, decide_eq_true_iff, Prod.ext_iff, Setting.key,
    eq_comm (a := key.1), eq_comm (a := key.2)]

theorem valueOf_cons (setting : Setting) (settings : List Setting) :
    valueOf (setting :: settings) =
      Function.update (valueOf settings) setting.key (some setting.value) := by
  funext key
  rw [valueOf, List.find?_cons, isOf_eq_decide, Function.update_apply]
  by_cases own : key = setting.key <;> simp [own, valueOf]

/-- The setting that is found has the user and the name that were asked for. -/
theorem find?_eq_valueOf (settings : List Setting) (user name : String) :
    settings.find? (·.isOf user name) =
      (valueOf settings (user, name)).map (⟨user, name, ·⟩) := by
  cases found : settings.find? (·.isOf user name) with
  | none => simp [valueOf, found]
  | some setting =>
      obtain ⟨rfl, rfl⟩ := Setting.isOf_iff.1 (List.find?_some found)
      simp [valueOf, found]

theorem isSome_valueOf (settings : List Setting) (user name : String) :
    (valueOf settings (user, name)).isSome = settings.any (·.isOf user name) := by
  rw [valueOf, Option.isSome_map, List.isSome_find?]

/-- The names that are listed of a user are those under which something is held. -/
theorem mem_names_iff {listed : List Setting}
    (permuted : listed.Perm (settings.filter (·.user == user))) (name : String) :
    name ∈ listed.map Setting.name ↔ (valueOf settings (user, name)).isSome := by
  rw [(permuted.map _).mem_iff, isSome_valueOf, List.any_eq_true, List.mem_map]
  constructor
  · rintro ⟨setting, member, rfl⟩
    obtain ⟨inList, own⟩ := List.mem_filter.1 member
    exact ⟨setting, inList, Setting.isOf_iff.2 ⟨eq_of_beq own, rfl⟩⟩
  · rintro ⟨setting, inList, own⟩
    obtain ⟨rfl, rfl⟩ := Setting.isOf_iff.1 own
    exact ⟨setting, List.mem_filter.2 ⟨inList, beq_self_eq_true _⟩, rfl⟩

/-- Every value may be replaced that is held under the name, and not only the first. -/
theorem valueOf_update_eq (has : settings.any (·.isOf user name) = true) :
    valueOf (settings.map fun setting =>
        if setting.isOf user name then { setting with value := value } else setting) =
      Function.update (valueOf settings) (user, name) (some value) := by
  have replaced (settings : List Setting) (key : String × String) :
      valueOf (settings.map fun setting =>
        if setting.isOf user name then { setting with value := value } else setting) key =
      if key = (user, name) then (valueOf settings key).map fun _ => value
      else valueOf settings key := by
    induction settings with
    | nil => simp [valueOf]
    | cons setting rest ih =>
        rw [List.map_cons, valueOf_cons, valueOf_cons, Function.update_apply, ih,
          Function.update_apply]
        have own : setting.isOf user name = decide ((user, name) = setting.key) :=
          isOf_eq_decide setting (user, name)
        by_cases same : (user, name) = setting.key
        · have kept : Setting.key { setting with value := value } = setting.key := rfl
          by_cases this : key = setting.key <;> simp [own, same, this, kept]
        · by_cases this : key = setting.key <;> simp [own, same, this, eq_comm (a := setting.key)]
  funext key
  rw [replaced, Function.update_apply]
  by_cases same : key = (user, name)
  · subst same
    rw [← isSome_valueOf, Option.isSome_iff_exists] at has
    obtain ⟨old, held⟩ := has
    rw [if_pos rfl, if_pos rfl, held, Option.map_some]
  · rw [if_neg same, if_neg same]

theorem valueOf_append_eq (lacks : settings.any (·.isOf user name) = false) :
    valueOf (settings ++ [⟨user, name, value⟩]) =
      Function.update (valueOf settings) (user, name) (some value) := by
  induction settings with
  | nil => exact valueOf_cons ⟨user, name, value⟩ []
  | cons setting rest ih =>
      rw [List.any_cons, Bool.or_eq_false_iff] at lacks
      have other : (user, name) ≠ setting.key := by
        intro same
        rw [isOf_eq_decide setting (user, name), decide_eq_false_iff_not] at lacks
        exact lacks.1 same
      rw [List.cons_append, valueOf_cons, valueOf_cons, ih lacks.2,
        Function.update_comm (Ne.symm other)]

theorem valueOf_put (settings : List Setting) (user name value : String) :
    valueOf (Memory.put user name value settings) =
      Function.update (valueOf settings) (user, name) (some value) := by
  induction settings with
  | nil => exact valueOf_cons ⟨user, name, value⟩ []
  | cons setting rest ih =>
      rw [Memory.put, isOf_eq_decide setting (user, name)]
      by_cases own : (user, name) = setting.key
      · have kept : Setting.key { setting with value := value } = setting.key := rfl
        simp [own, valueOf_cons, kept]
      · simp only [own, decide_false, Bool.false_eq_true, if_false, valueOf_cons, ih]
        exact Function.update_comm own _ _ _

theorem valueOf_filter (settings : List Setting) (user name : String) :
    valueOf (settings.filter fun setting => !setting.isOf user name) =
      Function.update (valueOf settings) (user, name) none := by
  induction settings with
  | nil =>
      funext key
      simp [valueOf, Function.update_apply]
  | cons setting rest ih =>
      rw [List.filter_cons, isOf_eq_decide setting (user, name)]
      by_cases own : (user, name) = setting.key
      · simp [own, ih, valueOf_cons]
      · simp only [own, decide_false, Bool.not_false, if_true, valueOf_cons, ih]
        exact Function.update_comm own _ _ _

end Lists

/-- The store in memory has the entries that its list says. -/
def Memory.entryWise : EntryWise backend where
  value? memory := valueOf memory.settings
  Usable _ := True
  get {memory} _ user name := by
    show ((.ok _, memory) : Except StoreError _ × Memory) = _
    rw [find?_eq_valueOf]
  list _ user := ⟨_, rfl, mem_names_iff (List.mergeSort_perm _ _)⟩
  set {memory} _ user name value := ⟨_, rfl, trivial, valueOf_put memory.settings user name value⟩
  remove {memory} _ user name := by
    refine ⟨_, ?_, trivial, valueOf_filter memory.settings user name⟩
    rw [isSome_valueOf, ← filter_length_ne]
    rfl
  usable_of_set _ := trivial

end Settings

namespace Database

open Settings

/-- Writing a row is putting in what the row says, entry by entry. -/
theorem valueOf_putSetting (user name value : String) (table : Table SettingRow) :
    valueOf (decoded (putSetting user name value table)) =
      Function.update (valueOf (decoded table)) (user, name) (some value) := by
  cases has : (decoded table).any (·.isOf user name) with
  | true => rw [decoded_putSetting_of_has has, valueOf_update_eq has]
  | false => rw [decoded_putSetting_of_lacks has, valueOf_append_eq has]

/-- The store in the database has the entries that its rows say, as long as it is open. -/
def settingsEntryWise : EntryWise settingsBackend where
  value? db := valueOf (decoded db.settings)
  Usable db := db.closed = false
  get {db} opened user name := by
    have found := find?_eq_valueOf (decoded db.settings) user name
    rw [decoded, List.find?_map] at found
    show getSetting user name db = _
    rw [getSetting, query_of_open opened]
    exact congrArg (fun answer => (Except.ok answer, db)) found
  list {db} opened user := by
    refine ⟨_, ?_, mem_names_iff (perm_decode_sortBy db.settings user)⟩
    show listSettings user db = _
    rw [listSettings, query_of_open opened]
  set {db} opened user name value := by
    refine ⟨{ db with settings := putSetting user name value db.settings }, ?_, opened,
      valueOf_putSetting user name value db.settings⟩
    show setSetting user name value db = _
    rw [setSetting, command_of_open opened]
  remove {db} opened user name := by
    refine ⟨{ db with settings := { db.settings with
      rows := db.settings.rows.filter fun row => !row.isOf user name } }, ?_, opened, ?_⟩
    · show removeSetting user name db = _
      rw [removeSetting, command_of_open opened, any_row, isSome_valueOf]
    · rw [Wrote, ← valueOf_filter, ← decoded_filter]
  usable_of_set {db user name value setting} done := by
    cases closed : db.closed with
    | false => rfl
    | true =>
        have refused : (setSetting user name value db).1 =
            .error (.storage (.database .poolClosed)) := by
          simp [setSetting, command, statement, closed]
        cases refused.symm.trans done

end Database

end ChatRobots
