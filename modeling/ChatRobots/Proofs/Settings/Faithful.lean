/-
Module: ChatRobots.Proofs.Settings.Faithful
Purpose: Both settings stores keep a dictionary for each user, and nothing else can be seen of them.
Main exports: settingsOf, Faithful, Faithful.within, Memory.faithful, Database.settingsFaithful
-/
import Mathlib.Logic.Function.Basic
import ChatRobots.Database.Settings
import ChatRobots.Proofs.Action
import ChatRobots.Proofs.Database.Queries
import ChatRobots.Proofs.Dictionary

namespace ChatRobots

/-!
To its callers a settings store is one dictionary for each user.  What a call answers is read off
the dictionary of the user it is made for, and a call that writes changes this dictionary alone.

Memory keeps its settings in a list and the database keeps them in rows, which say a list as well.
The invariant of both is that no name of a user occurs twice in the list.  Then the entry that is
found first is the only one, it makes no difference whether a value is replaced where it stands or
wherever the name occurs, and sorting by names leaves nothing to the order in which names came.
-/

namespace Settings

/-- What is listed of a user who has this dictionary. -/
def settingsOf (user : String) (own : Dictionary String) : List Setting :=
  own.entries.map fun (name, value) => ⟨user, name, value⟩

theorem mem_settingsOf {setting : Setting} {user : String} {own : Dictionary String} :
    setting ∈ settingsOf user own ↔
      setting.user = user ∧ own.find? setting.name = some setting.value := by
  rw [Dictionary.find?_eq_some_iff, settingsOf, List.mem_map]
  constructor
  · rintro ⟨⟨name, value⟩, mem, rfl⟩
    exact ⟨rfl, mem⟩
  · rintro ⟨rfl, mem⟩
    exact ⟨_, mem, rfl⟩

/-- A write has given the user this dictionary, and has left the other users theirs. -/
structure Writes {σ : Type} (own : σ → String → Dictionary String) (Sound : σ → Prop)
    (user : String) (entries : Dictionary String) (before after : σ) : Prop where
  sound : Sound after
  own_eq : own after = Function.update (own before) user entries

/-- A store that keeps a dictionary for each user: what its calls answer, and what they write. -/
structure Faithful {σ : Type} (store : Backend σ) where
  own : σ → String → Dictionary String
  Sound : σ → Prop
  list {s : σ} (sound : Sound s) (user : String) :
    store.list user s = (.ok (settingsOf user (own s user)), s)
  get {s : σ} (sound : Sound s) (user name : String) :
    store.get user name s = (.ok (((own s user).find? name).map (⟨user, name, ·⟩)), s)
  set {s : σ} (sound : Sound s) (user name value : String) :
    ∃ after, store.set user name value s = (.ok ⟨user, name, value⟩, after) ∧
      Writes own Sound user ((own s user).put name value) s after
  remove {s : σ} (sound : Sound s) (user name : String) :
    ∃ after, store.remove user name s = (.ok ((own s user).find? name).isSome, after) ∧
      Writes own Sound user ((own s user).erase name) s after

section Parts

variable {σ τ : Type} {store : Backend σ} {get : τ → σ} {set : σ → τ → τ}

theorem Writes.within {own : σ → String → Dictionary String} {Sound : σ → Prop} {user : String}
    {entries : Dictionary String} {whole : τ} {part : σ}
    (wrote : Writes own Sound user entries (get whole) part)
    (get_set : ∀ part whole, get (set part whole) = part) :
    Writes (fun whole => own (get whole)) (fun whole => Sound (get whole)) user entries whole
      (set part whole) where
  sound := by rw [get_set]; exact wrote.sound
  own_eq := by rw [get_set]; exact wrote.own_eq

/-- The larger state keeps the dictionaries of its part. -/
def Faithful.within (faithful : Faithful store)
    (get_set : ∀ part whole, get (set part whole) = part)
    (set_get : ∀ whole, set (get whole) whole = whole) : Faithful (store.within get set) where
  own whole := faithful.own (get whole)
  Sound whole := faithful.Sound (get whole)
  list sound user := Act.ask_within set_get (faithful.list sound user)
  get sound user name := Act.ask_within set_get (faithful.get sound user name)
  set sound user name value := by
    obtain ⟨part, wrote, writes⟩ := faithful.set sound user name value
    exact ⟨_, Act.run_within wrote, writes.within get_set⟩
  remove sound user name := by
    obtain ⟨part, removed, writes⟩ := faithful.remove sound user name
    exact ⟨_, Act.run_within removed, writes.within get_set⟩

end Parts

section Once

variable {settings settings' : List Setting} {setting : Setting} {user name value : String}

theorem Setting.isOf_iff : setting.isOf user name = true ↔
    setting.user = user ∧ setting.name = name := by
  rw [isOf, Bool.and_eq_true, beq_iff_eq, beq_iff_eq]

/-- The user and the name of a setting. -/
def Setting.key (setting : Setting) : String × String :=
  (setting.user, setting.name)

/-- No name of a user occurs twice. -/
def Once (settings : List Setting) : Prop :=
  (settings.map Setting.key).Nodup

/-- Settings of one user under one name are one setting. -/
theorem Once.eq_of_key (once : Once settings) {a b : Setting} (first : a ∈ settings)
    (second : b ∈ settings) (same : a.key = b.key) : a = b :=
  List.inj_on_of_nodup_map once first second same

/-- The dictionary of a user in a list of settings. -/
def ownOf (settings : List Setting) (user : String) : Dictionary String :=
  .ofList ((settings.filter (·.user == user)).map fun setting => (setting.name, setting.value))

/-- What a user has under a name is what the list has for the two. -/
theorem Once.find?_ownOf (once : Once settings) :
    (ownOf settings user).find? name = some value ↔ ⟨user, name, value⟩ ∈ settings := by
  have listed (value : String) : (name, value) ∈ ((settings.filter (·.user == user)).map
      fun setting => (setting.name, setting.value)).reverse ↔ ⟨user, name, value⟩ ∈ settings := by
    rw [List.mem_reverse, List.mem_map]
    constructor
    · rintro ⟨setting, filtered, same⟩
      obtain ⟨mem, own⟩ := List.mem_filter.1 filtered
      obtain ⟨rfl, rfl⟩ := Prod.mk.inj same
      exact eq_of_beq own ▸ mem
    · exact fun mem => ⟨_, List.mem_filter.2 ⟨mem, beq_self_eq_true user⟩, rfl⟩
  rw [ownOf, Dictionary.ofList, Dictionary.find?_putAll, Dictionary.find?_empty, Option.or_none]
  refine ⟨fun found => (listed value).1 (mem_of_lookup found), fun mem => ?_⟩
  have known := isSome_lookup_iff.2 (List.mem_map_of_mem (f := (·.1)) ((listed value).2 mem))
  obtain ⟨other, found⟩ := Option.isSome_iff_exists.1 known
  have same := once.eq_of_key ((listed other).1 (mem_of_lookup found)) mem rfl
  rw [found, (Setting.mk.inj same).2.2]

/-- The entry that is found first is the one that the user's dictionary has. -/
theorem Once.find?_isOf (once : Once settings) (user name : String) :
    settings.find? (·.isOf user name) =
      ((ownOf settings user).find? name).map (⟨user, name, ·⟩) := by
  cases found : settings.find? (·.isOf user name) with
  | none =>
      cases has : (ownOf settings user).find? name with
      | none => rfl
      | some value =>
          have mem := once.find?_ownOf.1 has
          exact absurd (Setting.isOf_iff.2 ⟨rfl, rfl⟩) (List.find?_eq_none.1 found _ mem)
  | some setting =>
      obtain ⟨rfl, rfl⟩ := Setting.isOf_iff.1 (List.find?_some found)
      rw [once.find?_ownOf.2 (List.mem_of_find?_eq_some found)]
      rfl

/-- An entry is there for a user and a name exactly when the user has the name. -/
theorem Once.any_isOf (once : Once settings) (user name : String) :
    settings.any (·.isOf user name) = ((ownOf settings user).find? name).isSome := by
  rw [← List.isSome_find?, once.find?_isOf, Option.isSome_map]

/-- However the settings of a user are sorted by their names, they come as they are listed. -/
theorem Once.eq_settingsOf (once : Once settings) {sorted : List Setting}
    (permuted : sorted.Perm (settings.filter (·.user == user)))
    (ordered : sorted.Pairwise fun a b => ¬ b.name < a.name) :
    sorted = settingsOf user (ownOf settings user) := by
  have mem_sorted (setting : Setting) :
      setting ∈ sorted ↔ setting ∈ settings ∧ setting.user = user := by
    rw [permuted.mem_iff, List.mem_filter, beq_iff_eq]
  have keys : (sorted.map Setting.key).Nodup :=
    (permuted.map _).nodup_iff.2 ((List.filter_sublist.map _).nodup once)
  -- Names of one user are different, so names that do not fall rise.
  have rising : sorted.Pairwise fun a b => a.name < b.name := by
    refine (List.Pairwise.and ordered (List.pairwise_map.1 keys)).imp_of_mem ?_
    rintro a b first second ⟨notBelow, distinct⟩
    have oneUser : a.user = b.user :=
      ((mem_sorted a).1 first).2.trans ((mem_sorted b).1 second).2.symm
    refine String.not_le.1 fun le => distinct (Prod.ext oneUser ?_)
    exact String.le_antisymm (String.not_lt.1 notBelow) le
  have listed : (settingsOf user (ownOf settings user)).Pairwise fun a b => a.name < b.name := by
    rw [settingsOf, List.pairwise_map]
    exact (ownOf settings user).sorted
  have asymm : Std.Antisymm fun a b : Setting => a.name < b.name :=
    ⟨fun _ _ less more => absurd (String.lt_trans less more) (String.lt_irrefl _)⟩
  have irrefl : Std.Irrefl fun a b : Setting => a.name < b.name := ⟨fun _ => String.lt_irrefl _⟩
  apply List.Pairwise.eq_of_mem_iff rising listed
  intro setting
  rw [mem_sorted, mem_settingsOf, once.find?_ownOf, and_comm]
  constructor
  · rintro ⟨rfl, mem⟩
    exact ⟨rfl, mem⟩
  · rintro ⟨rfl, mem⟩
    exact ⟨rfl, mem⟩

/-- A list in which only the settings of one user have changed. -/
theorem Once.ownOf_eq_update (once : Once settings) (once' : Once settings')
    {entries : Dictionary String}
    (own : ∀ name value, ⟨user, name, value⟩ ∈ settings' ↔ entries.find? name = some value)
    (others : ∀ setting : Setting, setting.user ≠ user →
      (setting ∈ settings' ↔ setting ∈ settings)) :
    ownOf settings' = Function.update (ownOf settings) user entries := by
  funext other
  apply Dictionary.eq_of_find?_eq
  intro name
  apply Option.ext
  intro value
  rw [once'.find?_ownOf]
  by_cases same : other = user
  · subst same
    rw [Function.update_self]
    exact own name value
  · rw [Function.update_of_ne same, once.find?_ownOf]
    exact others _ same

end Once

namespace Memory

variable {settings : List Setting} {user name value : String}

theorem put_of_lacks (lacks : settings.any (·.isOf user name) = false) :
    put user name value settings = settings ++ [⟨user, name, value⟩] := by
  induction settings with
  | nil => rfl
  | cons setting rest ih =>
      rw [List.any_cons, Bool.or_eq_false_iff] at lacks
      rw [put, lacks.1, if_neg Bool.false_ne_true, ih lacks.2, List.cons_append]

/-- To replace a value where it stands is to replace it wherever the name of the user occurs. -/
theorem put_of_has (once : Once settings) (has : settings.any (·.isOf user name) = true) :
    put user name value settings =
      settings.map fun setting => if setting.isOf user name then { setting with value := value }
        else setting := by
  induction settings with
  | nil => cases has
  | cons setting rest ih =>
      rw [Once, List.map_cons, List.nodup_cons] at once
      rw [put, List.map_cons]
      by_cases own : setting.isOf user name = true
      · have others : ∀ other ∈ rest, other.isOf user name = false := by
          intro other mem
          rw [Bool.eq_false_iff]
          intro again
          obtain ⟨rfl, rfl⟩ := Setting.isOf_iff.1 own
          have key : other.key = setting.key := Prod.ext_iff.2 (Setting.isOf_iff.1 again)
          exact once.1 (key ▸ List.mem_map_of_mem mem)
        have kept : rest.map (fun setting => if setting.isOf user name then
            { setting with value := value } else setting) = rest.map id :=
          List.map_congr_left fun other mem => by simp [others other mem]
        rw [if_pos own, if_pos own, kept, List.map_id]
      · rw [List.any_cons, Bool.or_eq_true] at has
        rw [if_neg own, if_neg own, ih once.2 (has.resolve_left own)]

/-- What is there after a setting was put in: the setting, and what has another user or name. -/
theorem mem_put (once : Once settings) {setting : Setting} :
    setting ∈ put user name value settings ↔
      setting = ⟨user, name, value⟩ ∨ setting ∈ settings ∧ setting.isOf user name = false := by
  cases has : settings.any (·.isOf user name) with
  | false =>
      rw [put_of_lacks has, List.mem_append, List.mem_singleton, or_comm]
      refine or_congr_right (iff_self_and.2 fun mem => ?_)
      exact Bool.eq_false_iff.2 fun own => List.any_eq_false.1 has _ mem own
  | true =>
      rw [put_of_has once has, List.mem_map]
      constructor
      · rintro ⟨other, mem, rfl⟩
        by_cases own : other.isOf user name = true
        · rw [if_pos own]
          obtain ⟨rfl, rfl⟩ := Setting.isOf_iff.1 own
          exact .inl rfl
        · rw [if_neg own]
          exact .inr ⟨mem, Bool.eq_false_iff.2 own⟩
      · rintro (rfl | ⟨mem, other⟩)
        · obtain ⟨old, mem, own⟩ := List.any_eq_true.1 has
          refine ⟨old, mem, ?_⟩
          rw [if_pos own]
          obtain ⟨rfl, rfl⟩ := Setting.isOf_iff.1 own
          rfl
        · exact ⟨setting, mem, if_neg (Bool.eq_false_iff.1 other)⟩

theorem once_put (once : Once settings) : Once (put user name value settings) := by
  cases has : settings.any (·.isOf user name) with
  | false =>
      rw [put_of_lacks has, Once, List.map_append, List.nodup_append]
      refine ⟨once, List.nodup_singleton _, ?_⟩
      rintro key old new isNew rfl
      obtain rfl := List.mem_singleton.1 isNew
      obtain ⟨setting, mem, same⟩ := List.mem_map.1 old
      exact List.any_eq_false.1 has setting mem (Setting.isOf_iff.2 (Prod.mk.inj same))
  | true =>
      have keys : (put user name value settings).map Setting.key = settings.map Setting.key := by
        rw [put_of_has once has, List.map_map]
        apply List.map_congr_left
        intro setting _
        rw [Function.comp_apply]
        split <;> rfl
      rw [Once, keys]
      exact once

/-- Putting a setting in writes it to its user's dictionary. -/
theorem ownOf_put (once : Once settings) :
    ownOf (put user name value settings) =
      Function.update (ownOf settings) user ((ownOf settings user).put name value) := by
  apply once.ownOf_eq_update (once_put once)
  · intro other found
    rw [mem_put once, Dictionary.find?_put_eq_some_iff, once.find?_ownOf, Setting.mk.injEq,
      and_comm (a := other ≠ name), ← Bool.not_eq_true, Setting.isOf_iff]
    simp [eq_comm]
  · intro setting other
    rw [mem_put once, ← Bool.not_eq_true, Setting.isOf_iff]
    constructor
    · rintro (rfl | ⟨mem, -⟩)
      · exact absurd rfl other
      · exact mem
    · exact fun mem => .inr ⟨mem, fun own => other own.1⟩

theorem once_filter (once : Once settings) (test : Setting → Bool) : Once (settings.filter test) :=
  (List.filter_sublist.map _).nodup once

/-- What is taken out is what was there. -/
theorem filter_length_ne (settings : List Setting) (test : Setting → Bool) :
    ((settings.filter fun setting => !test setting).length != settings.length) =
      settings.any test := by
  rw [Bool.eq_iff_iff, bne_iff_ne, ne_eq, List.length_filter_eq_length_iff, List.any_eq_true]
  simp

/-- Taking a setting out takes its name out of its user's dictionary. -/
theorem ownOf_filter (once : Once settings) (user name : String) :
    ownOf (settings.filter fun setting => !setting.isOf user name) =
      Function.update (ownOf settings) user ((ownOf settings user).erase name) := by
  apply once.ownOf_eq_update (once_filter once _)
  · intro other found
    rw [List.mem_filter, Dictionary.find?_erase, Bool.not_eq_true', ← Bool.not_eq_true,
      Setting.isOf_iff]
    by_cases same : other = name
    · simp [same]
    · simp [same, once.find?_ownOf]
  · intro setting other
    rw [List.mem_filter, Bool.not_eq_true', ← Bool.not_eq_true, Setting.isOf_iff]
    exact and_iff_left fun own => other own.1

theorem nameLe_trans (a b c : Setting) (first : a.nameLe b = true) (second : b.nameLe c = true) :
    a.nameLe c = true := by
  simp only [Setting.nameLe, Bool.not_eq_true', decide_eq_false_iff_not, String.not_lt] at *
  exact String.le_trans first second

theorem nameLe_total (a b : Setting) : (a.nameLe b || b.nameLe a) = true := by
  simp only [Setting.nameLe, Bool.or_eq_true, Bool.not_eq_true', decide_eq_false_iff_not,
    String.not_lt]
  exact String.le_total _ _

/-- The store in memory keeps the dictionaries that its list says. -/
def faithful : Faithful backend where
  own memory := ownOf memory.settings
  Sound memory := Once memory.settings
  list {memory} once user := by
    have sorted : (memory.settings.filter (·.user == user)).mergeSort Setting.nameLe =
        settingsOf user (ownOf memory.settings user) := by
      apply once.eq_settingsOf (List.mergeSort_perm _ _)
      refine (List.pairwise_mergeSort nameLe_trans nameLe_total _).imp ?_
      intro a b inOrder
      simpa [Setting.nameLe] using inOrder
    show ((.ok _, memory) : Except StoreError _ × Memory) = _
    rw [sorted]
  get {memory} once user name := by
    show ((.ok _, memory) : Except StoreError _ × Memory) = _
    rw [once.find?_isOf]
  set {memory} once user name value :=
    ⟨_, rfl, once_put once, ownOf_put once⟩
  remove {memory} once user name := by
    refine ⟨_, ?_, once_filter once _, ownOf_filter once user name⟩
    rw [← once.any_isOf, ← filter_length_ne]
    rfl

end Memory

end Settings

namespace Database

open Settings

variable {db : Database} {user name value : String}

/-- What the rows of the table say. -/
def decoded (table : Table SettingRow) : List Setting :=
  table.rows.map SettingRow.decode

theorem any_row (table : Table SettingRow) (user name : String) :
    table.rows.any (·.isOf user name) = (decoded table).any (·.isOf user name) := by
  rw [decoded, List.any_map]
  rfl

theorem pairwise_decode_sortBy (rows : List SettingRow) :
    ((sortBy (·.name) (·.id) rows).map SettingRow.decode).Pairwise
      fun a b => ¬ b.name < a.name := by
  rw [sortBy_eq, List.pairwise_map]
  refine (List.pairwise_mergeSort inOrder_trans inOrder_total _).imp ?_
  intro a b ordered (later : b.name < a.name)
  rcases inOrder_iff.1 ordered with earlier | ⟨same, -⟩
  · exact String.lt_irrefl _ (String.lt_trans earlier later)
  · exact String.lt_irrefl _ (same ▸ later)

/-- The rows of a user are listed as what they say. -/
theorem perm_decode_sortBy (table : Table SettingRow) (user : String) :
    ((sortBy (·.name) (·.id) (table.rows.filter (·.user == user))).map SettingRow.decode).Perm
      ((decoded table).filter (·.user == user)) := by
  rw [decoded, List.filter_map]
  exact (List.mergeSort_perm _ _).map _

/-- Writing a row replaces what is said under the name. -/
theorem decoded_putSetting_of_has {table : Table SettingRow}
    (has : (decoded table).any (·.isOf user name) = true) :
    decoded (putSetting user name value table) = (decoded table).map fun setting =>
      if setting.isOf user name then { setting with value := value } else setting := by
  rw [putSetting, if_pos ((any_row ..).trans has)]
  simp only [decoded, Table.update, List.map_map]
  apply List.map_congr_left
  intro row _
  exact apply_ite SettingRow.decode ..

/-- Where nothing is said under the name, a row is inserted. -/
theorem decoded_putSetting_of_lacks {table : Table SettingRow}
    (lacks : (decoded table).any (·.isOf user name) = false) :
    decoded (putSetting user name value table) = decoded table ++ [⟨user, name, value⟩] := by
  rw [putSetting, if_neg (Bool.eq_false_iff.1 ((any_row ..).trans lacks))]
  exact List.map_append

/-- Writing a row is putting in what the row says. -/
theorem decoded_putSetting {table : Table SettingRow} (once : Once (decoded table)) :
    decoded (putSetting user name value table) = Memory.put user name value (decoded table) := by
  cases has : (decoded table).any (·.isOf user name) with
  | true => rw [decoded_putSetting_of_has has, Memory.put_of_has once has]
  | false => rw [decoded_putSetting_of_lacks has, Memory.put_of_lacks has]

/-- Deleting rows is taking out what they say. -/
theorem decoded_filter (table : Table SettingRow) (user name : String) :
    decoded { table with rows := table.rows.filter fun row => !row.isOf user name } =
      (decoded table).filter fun setting => !setting.isOf user name := by
  rw [decoded, decoded, List.filter_map]
  rfl

/-- The store in the database keeps the dictionaries that its rows say, as long as it is open. -/
def settingsFaithful : Faithful settingsBackend where
  own db := ownOf (decoded db.settings)
  Sound db := db.closed = false ∧ Once (decoded db.settings)
  list {db} sound user := by
    have sorted := sound.2.eq_settingsOf (perm_decode_sortBy db.settings user)
      (pairwise_decode_sortBy _)
    show listSettings user db = _
    rw [listSettings, query_of_open sound.1, sorted]
  get {db} sound user name := by
    have found := sound.2.find?_isOf user name
    rw [decoded, List.find?_map] at found
    show getSetting user name db = _
    rw [getSetting, query_of_open sound.1]
    exact congrArg (fun answer => (Except.ok answer, db)) found
  set {db} sound user name value := by
    have put : decoded (putSetting user name value db.settings) =
        Memory.put user name value (decoded db.settings) := decoded_putSetting sound.2
    refine ⟨{ db with settings := putSetting user name value db.settings }, ?_, ⟨sound.1, ?_⟩, ?_⟩
    · show setSetting user name value db = _
      rw [setSetting, command_of_open sound.1]
    · exact put ▸ Memory.once_put sound.2
    · exact put ▸ Memory.ownOf_put sound.2
  remove {db} sound user name := by
    have kept := decoded_filter db.settings user name
    refine ⟨{ db with settings := { db.settings with
      rows := db.settings.rows.filter fun row => !row.isOf user name } }, ?_, ⟨sound.1, ?_⟩, ?_⟩
    · show removeSetting user name db = _
      rw [removeSetting, command_of_open sound.1, any_row, sound.2.any_isOf]
    · exact kept ▸ Memory.once_filter sound.2 _
    · exact kept ▸ Memory.ownOf_filter sound.2 user name

end Database

end ChatRobots
