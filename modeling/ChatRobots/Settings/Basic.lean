/-
Module: ChatRobots.Settings.Basic
Purpose: Named values that belong to a user, and what a store of them offers.
Main exports: Setting, parseAssignment?, Backend, Memory, Memory.backend
-/
import ChatRobots.StoreError
import ChatRobots.Text.Split

namespace ChatRobots.Settings

/-!
A setting is a value under a name, and each user has names of their own: a store of settings is a
finite map from pairs of user and name to values.

In memory the map is a list without two entries for one pair.  Setting a pair that is there
changes its value in place; a listing is put into the order of the names.
-/

/-- A value that a user keeps under a name. -/
structure Setting where
  user : String
  name : String
  value : String
deriving DecidableEq, Repr

/-- Read `NAME=value`, split at the first `=`, both sides trimmed; the name must not be blank. -/
def parseAssignment? (raw : String) : Option (String × String) :=
  match Text.cut? '=' raw.toList with
  | none => none
  | some (name, value) =>
      let name := Text.trim name
      if name.isEmpty then none
      else some (String.ofList name, String.ofList (Text.trim value))

/-- The calls of a settings store with states `σ`. -/
structure Backend (σ : Type) where
  /-- The settings of the user, by name. -/
  list (user : String) : Act σ (List Setting)
  get (user name : String) : Act σ (Option Setting)
  /-- Write the value, whether or not the name has one already. -/
  set (user name value : String) : Act σ Setting
  /-- Take the name away; whether it was there. -/
  remove (user name : String) : Act σ Bool

namespace Backend

/-- A backend over a part of a larger state. -/
def within {σ τ : Type} (part : τ → σ) (put : σ → τ → τ) (backend : Backend σ) : Backend τ where
  list user := (backend.list user).within part put
  get user name := (backend.get user name).within part put
  set user name value := (backend.set user name value).within part put
  remove user name := (backend.remove user name).within part put

end Backend

namespace Setting

/-- The setting of this user under this name. -/
def isOf (user name : String) (setting : Setting) : Bool :=
  setting.user == user && setting.name == name

/-- The order of names, character by character. -/
def nameLe (a b : Setting) : Bool :=
  !decide (b.name < a.name)

end Setting

/-- The settings in the process, in the order in which their names were first set. -/
structure Memory where
  settings : List Setting := []

namespace Memory

/-- Replace the value of the pair where it stands, or append a new entry. -/
def put (user name value : String) : List Setting → List Setting
  | [] => [⟨user, name, value⟩]
  | setting :: rest =>
      if setting.isOf user name then { setting with value := value } :: rest
      else setting :: put user name value rest

def list (user : String) : Act Memory (List Setting) := fun memory =>
  (.ok ((memory.settings.filter (·.user == user)).mergeSort Setting.nameLe), memory)

def get (user name : String) : Act Memory (Option Setting) := fun memory =>
  (.ok (memory.settings.find? (·.isOf user name)), memory)

def set (user name value : String) : Act Memory Setting := fun memory =>
  (.ok ⟨user, name, value⟩, { memory with settings := put user name value memory.settings })

def remove (user name : String) : Act Memory Bool := fun memory =>
  let kept := memory.settings.filter fun setting => !setting.isOf user name
  (.ok (kept.length != memory.settings.length), { memory with settings := kept })

/-- The calls of the settings store in memory. -/
def backend : Backend Memory where
  list := list
  get := get
  set := set
  remove := remove

end Memory

end ChatRobots.Settings
