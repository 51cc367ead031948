/-
Module: ChatRobots.Database.Settings
Purpose: The settings store over the tables of the database.
Main exports: Database.settingsBackend
-/
import ChatRobots.Database.Basic
import ChatRobots.Settings.Basic

namespace ChatRobots

open Settings

/-!
User and name are unique together.  Writing a pair that is there replaces its value; the id that
was set aside for the row is used up all the same.
-/

namespace SettingRow

def decode (row : SettingRow) : Setting :=
  ⟨row.user, row.name, row.value⟩

/-- The row of this user under this name. -/
def isOf (user name : String) (row : SettingRow) : Bool :=
  row.user == user && row.name == name

end SettingRow

namespace Database

def listSettings (user : String) : Act Database (List Setting) :=
  query fun db =>
    .ok ((sortBy (·.name) (·.id) (db.settings.rows.filter (·.user == user))).map SettingRow.decode)

def getSetting (user name : String) : Act Database (Option Setting) :=
  query fun db => .ok ((db.settings.rows.find? (·.isOf user name)).map SettingRow.decode)

/-- Insert the row, or replace the value where the pair is there. -/
def putSetting (user name value : String) (table : Table SettingRow) : Table SettingRow :=
  if table.rows.any (·.isOf user name) then
    { table.update (·.isOf user name) fun row => { row with value := value } with
      lastId := table.lastId + 1 }
  else table.insert fun id => ⟨id, user, name, value⟩

def setSetting (user name value : String) : Act Database Setting :=
  command fun db => (⟨user, name, value⟩,
    { db with settings := putSetting user name value db.settings })

def removeSetting (user name : String) : Act Database Bool :=
  command fun db =>
    (db.settings.rows.any (·.isOf user name),
      { db with settings := { db.settings with
          rows := db.settings.rows.filter fun row => !row.isOf user name } })

/-- The calls of the settings store in the database. -/
def settingsBackend : Settings.Backend Database where
  list := listSettings
  get := getSetting
  set := setSetting
  remove := removeSetting

end Database

end ChatRobots
