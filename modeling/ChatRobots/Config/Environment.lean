/-
Module: ChatRobots.Config.Environment
Purpose: Environment variables, and the texts into which they are inserted.
Main exports: Environment, Environment.value?, Environment.setting?, interpolate
-/
import ChatRobots.Dictionary
import ChatRobots.Text.Blank
import ChatRobots.Text.Split

namespace ChatRobots

/-!
The environment is a list of variables, each name once, in the order in which they were first set.
As a setting a variable counts only when its value is not blank.

A configuration file may name variables between a dollar sign with an opening brace and a closing
brace; their values take the place of the names.  The text is gone through once: what was inserted
is not looked at again.
-/

/-- The variables of a process. -/
structure Environment where
  bindings : List (String × String) := []

namespace Environment

/-- Replace the value of a variable where it stands, or append it. -/
def setVariable (name value : String) : List (String × String) → List (String × String)
  | [] => [(name, value)]
  | (n, v) :: rest =>
      if n = name then (n, value) :: rest else (n, v) :: setVariable name value rest

def set (name value : String) (env : Environment) : Environment :=
  ⟨setVariable name value env.bindings⟩

/-- Set variables one after another. -/
def ofList (bindings : List (String × String)) : Environment :=
  bindings.foldl (fun env (name, value) => env.set name value) {}

/-- The variables of a block: each is a name, an equals sign and a value, and ends with a NUL. -/
def ofBlock (block : String) : Environment :=
  ofList <| (Text.pieces '\x00' block.toList).filterMap fun piece =>
    (Text.cut? '=' piece).map fun (name, value) => (String.ofList name, String.ofList value)

/-- The value of a variable. -/
def value? (env : Environment) (name : String) : Option String :=
  env.bindings.lookup name

theorem lookup_setVariable (name other value : String) (list : List (String × String)) :
    (setVariable name value list).lookup other
      = if other = name then some value else list.lookup other := by
  induction list with
  | nil => simp only [setVariable, Dictionary.lookup_cons_eq]
  | cons head rest ih =>
    obtain ⟨n, v⟩ := head
    simp only [setVariable]
    split
    · rename_i same
      subst same
      simp only [Dictionary.lookup_cons_eq]
      split <;> rfl
    · rename_i differs
      simp only [Dictionary.lookup_cons_eq, ih]
      by_cases isOther : other = name
      · have : other ≠ n := fun h => differs (h ▸ isOther)
        simp [isOther, Ne.symm differs]
      · simp [isOther]

/-- What is found after a variable is set: its value under its name, the rest as before. -/
theorem value?_set (env : Environment) (name other value : String) :
    (env.set name value).value? other = if other = name then some value else env.value? other :=
  lookup_setVariable name other value env.bindings

/-- The value of a variable that is set and not blank. -/
def setting? (env : Environment) (name : String) : Option String :=
  (env.value? name).filter fun value => !Text.isBlankText value

end Environment

/-- Why variables could not be inserted. -/
inductive InterpolationError where
  | unset (name : String)
  | unterminated
deriving DecidableEq, Repr

/-- Split at the closing brace of a name: the name and what follows. -/
def closeName? : List Char → Option (List Char × List Char)
  | [] => none
  | c :: rest =>
      if c = '\x7d' then some ([], rest)
      else (closeName? rest).map fun (name, rest) => (c :: name, rest)

theorem length_closeName?_lt {text name rest : List Char}
    (h : closeName? text = some (name, rest)) : rest.length < text.length := by
  induction text generalizing name with
  | nil => simp [closeName?] at h
  | cons c text ih =>
    simp only [closeName?] at h
    split at h
    · simp only [Option.some.injEq, Prod.mk.injEq] at h
      simp [← h.2]
    · simp only [Option.map_eq_some_iff, Prod.mk.injEq] at h
      obtain ⟨⟨n, r⟩, hr, -, rfl⟩ := h
      have shorter : r.length < text.length := ih hr
      simpa using Nat.lt_succ_of_lt shorter

/-- A name ends at the first closing brace. -/
theorem closeName?_append {name : List Char} (h : '\x7d' ∉ name) (rest : List Char) :
    closeName? (name ++ '\x7d' :: rest) = some (name, rest) := by
  induction name with
  | nil => simp [closeName?]
  | cons c name ih =>
    rw [List.mem_cons, not_or] at h
    simp [closeName?, Ne.symm h.1, ih h.2]

/-- Without a closing brace no name ends. -/
theorem closeName?_eq_none {text : List Char} (h : '\x7d' ∉ text) : closeName? text = none := by
  induction text with
  | nil => rfl
  | cons c text ih =>
    rw [List.mem_cons, not_or] at h
    simp [closeName?, Ne.symm h.1, ih h.2]

/-- Insert the values of variables into a text. -/
def interpolateChars (value? : String → Option String) :
    List Char → Except InterpolationError (List Char)
  | [] => .ok []
  | '$' :: '\x7b' :: text =>
      match _closed : closeName? text with
      | none => .error .unterminated
      | some (name, rest) =>
          match value? (String.ofList name) with
          | none => .error (.unset (String.ofList name))
          | some value => do
              let after ← interpolateChars value? rest
              pure (value.toList ++ after)
  | c :: text => do
      let after ← interpolateChars value? text
      pure (c :: after)
termination_by text => text.length
decreasing_by
  · have := length_closeName?_lt _closed
    simp only [List.length_cons]
    omega
  · simp

/-- Insert the values of the environment's variables into a text. -/
def interpolate (env : Environment) (text : String) : Except InterpolationError String :=
  (interpolateChars env.value? text.toList).map String.ofList

end ChatRobots
