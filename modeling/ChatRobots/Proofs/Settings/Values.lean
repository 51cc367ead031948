/-
Module: ChatRobots.Proofs.Settings.Values
Purpose: Stores of settings that hold the same names, whatever the values are.
Main exports: Settings.HidesValues, Settings.Memory.hidesValues, Database.settingsHidesValues
-/
import ChatRobots.Database.Settings
import ChatRobots.Proofs.Lists
import ChatRobots.Proofs.Robot.Twins

namespace ChatRobots

/-!
Two stores hold the same names when their entries agree place by place in everything but the
values.  No call of a store looks at a value, so each answers the same names from both, finds the
same names to remove, and keeps them in step, also when it sets one name to two values.
-/

namespace Settings

/-- The calls that change settings, or list their names, do not depend on the values. -/
structure HidesValues {σ : Type} (store : Backend σ) (R : σ → σ → Prop) : Prop where
  list (user : String) :
    ActTwins R (List.map Setting.name) (store.list user) (store.list user)
  set (user name value value' : String) :
    ActTwins R (fun _ => ()) (store.set user name value) (store.set user name value')
  remove (user name : String) : ActTwins R id (store.remove user name) (store.remove user name)

/-- The values stay hidden when the store is a part of a larger state. -/
theorem HidesValues.within {σ τ : Type} {store : Backend σ} {R : σ → σ → Prop}
    (hides : HidesValues store R) {part : τ → σ} {put : σ → τ → τ}
    (part_put : ∀ s whole, part (put s whole) = s) :
    HidesValues (store.within part put) fun whole whole' => R (part whole) (part whole') where
  list user := (hides.list user).within part_put
  set user name value value' := (hides.set user name value value').within part_put
  remove user name := (hides.remove user name).within part_put

/-- The same name of the same user. -/
def Setting.SameName (setting setting' : Setting) : Prop :=
  setting.user = setting'.user ∧ setting.name = setting'.name

theorem Setting.SameName.isOf_eq {setting setting' : Setting} (same : setting.SameName setting')
    (user name : String) : setting.isOf user name = setting'.isOf user name := by
  rw [isOf, isOf, same.1, same.2]

namespace Memory

/-- The entries agree in everything but the values. -/
def SameNames (memory memory' : Memory) : Prop :=
  List.Forall₂ Setting.SameName memory.settings memory'.settings

theorem put_alike {settings settings' : List Setting}
    (same : List.Forall₂ Setting.SameName settings settings') (user name value value' : String) :
    List.Forall₂ Setting.SameName (put user name value settings)
      (put user name value' settings') := by
  induction same with
  | nil => exact .cons ⟨rfl, rfl⟩ .nil
  | cons head rest ih =>
      rw [put, put, head.isOf_eq]
      split
      · exact .cons head rest
      · exact .cons head ih

/-- In memory the values stay hidden. -/
theorem hidesValues : HidesValues backend SameNames where
  list user := by
    intro memory memory' same
    have own := filter_alike same fun a b (names : a.SameName b) =>
      congrArg (· == user) names.1
    have sorted := mergeSort_alike own fun a b c d (first : a.SameName b) (second : c.SameName d) =>
      show a.nameLe c = b.nameLe d by rw [Setting.nameLe, Setting.nameLe, first.2, second.2]
    exact ⟨congrArg Except.ok (map_eq_of_alike sorted fun _ _ names => names.2), same⟩
  set user name value value' := fun _ _ same => ⟨rfl, put_alike same user name value value'⟩
  remove user name := by
    intro memory memory' same
    have kept := filter_alike same fun a b (names : a.SameName b) =>
      congrArg (!·) (names.isOf_eq user name)
    refine ⟨?_, kept⟩
    have answers : ((memory.settings.filter fun setting => !setting.isOf user name).length !=
        memory.settings.length) =
      ((memory'.settings.filter fun setting => !setting.isOf user name).length !=
        memory'.settings.length) := by
      rw [kept.length_eq, List.Forall₂.length_eq same]
    exact congrArg Except.ok answers

end Memory

end Settings

open Settings

/-- The same name of the same user under the same id. -/
structure SettingRow.SameName (row row' : SettingRow) : Prop where
  id : row.id = row'.id
  user : row.user = row'.user
  name : row.name = row'.name

theorem SettingRow.SameName.isOf_eq {row row' : SettingRow} (same : row.SameName row')
    (user name : String) : row.isOf user name = row'.isOf user name := by
  rw [isOf, isOf, same.user, same.name]

namespace Database

/-- The rows of settings agree in everything but the values. -/
structure SameSettingNames (db db' : Database) : Prop where
  closed : db.closed = db'.closed
  rows : List.Forall₂ SettingRow.SameName db.settings.rows db'.settings.rows
  lastId : db.settings.lastId = db'.settings.lastId

theorem any_alike {rows rows' : List SettingRow}
    (same : List.Forall₂ SettingRow.SameName rows rows') (user name : String) :
    rows.any (·.isOf user name) = rows'.any (·.isOf user name) := by
  induction same with
  | nil => rfl
  | cons head _ ih => rw [List.any_cons, List.any_cons, head.isOf_eq, ih]

/-- The rows agree after one name is set to two values. -/
theorem putSetting_alike {table table' : Table SettingRow}
    (same : List.Forall₂ SettingRow.SameName table.rows table'.rows)
    (lastId : table.lastId = table'.lastId) (user name value value' : String) :
    List.Forall₂ SettingRow.SameName (putSetting user name value table).rows
        (putSetting user name value' table').rows ∧
      (putSetting user name value table).lastId = (putSetting user name value' table').lastId := by
  rw [putSetting, putSetting, any_alike same user name]
  split
  · refine ⟨?_, congrArg (· + 1) lastId⟩
    rw [Table.update, Table.update, List.forall₂_map_left_iff, List.forall₂_map_right_iff]
    refine same.imp fun row row' names => ?_
    rw [names.isOf_eq]
    split
    · exact ⟨names.id, names.user, names.name⟩
    · exact names
  · refine ⟨List.rel_append same (.cons ⟨congrArg (· + 1) lastId, rfl, rfl⟩ .nil), ?_⟩
    exact congrArg (· + 1) lastId

/-- A statement is refused by both databases, or run on both. -/
theorem twins_statement {α γ : Type} {view : α → γ} {first second : Act Database α}
    (twins : ActTwins SameSettingNames view first second) :
    ActTwins SameSettingNames view (statement first) (statement second) := by
  intro db db' same
  rw [statement, statement, same.closed]
  split
  · exact ⟨rfl, same⟩
  · exact twins same

/-- In the database the values stay hidden. -/
theorem settingsHidesValues : HidesValues settingsBackend SameSettingNames where
  list user := by
    apply twins_statement
    intro db db' same
    have own := filter_alike same.rows fun a b (names : a.SameName b) =>
      congrArg (· == user) names.user
    have sorted := mergeSort_alike own fun a b c d (first : a.SameName b) (second : c.SameName d) =>
      show (if a.name = c.name then decide (a.id ≤ c.id) else !decide (c.name < a.name)) =
          if b.name = d.name then decide (b.id ≤ d.id) else !decide (d.name < b.name) by
        rw [first.id, first.name, second.id, second.name]
    refine ⟨congrArg Except.ok ?_, same⟩
    rw [List.map_map, List.map_map]
    exact map_eq_of_alike sorted fun _ _ names => names.name
  set user name value value' := by
    apply twins_statement
    intro db db' same
    obtain ⟨rows, lastId⟩ := putSetting_alike same.rows same.lastId user name value value'
    exact ⟨rfl, same.closed, rows, lastId⟩
  remove user name := by
    apply twins_statement
    intro db db' same
    have kept := filter_alike same.rows fun a b (names : a.SameName b) =>
      congrArg (!·) (names.isOf_eq user name)
    exact ⟨congrArg Except.ok (any_alike same.rows user name), same.closed, kept, same.lastId⟩

end Database

end ChatRobots
