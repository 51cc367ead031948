/-
Module: ChatRobots.StoreError
Purpose: What can go wrong in a store, and calls of a store as state actions.
Main exports: StoreError, StoreError.message, Act, parseNumber
-/
import ChatRobots.Number.Reader
import ChatRobots.Calendar.DateText
import ChatRobots.Database.Error

namespace ChatRobots

/-!
A call of a store reads and changes a state and either answers or fails.  A failure is either the
caller's (a text that should have been a number) or the store's; callers pass both on unchanged,
and only the reply to the user puts them into words.

A state change made before the failure stays: `Act` keeps the state in both outcomes.
-/

/-- The types of column that can hold something other than their rows expect. -/
inductive RealColumn where
  | required (name : String)
  | nullable (name : String)
deriving DecidableEq, Repr

namespace RealColumn

def name : RealColumn → String
  | required name => name
  | nullable name => name

/-- The type that a reader of the column asks for. -/
def wanted : RealColumn → String
  | required _ => "f64"
  | nullable _ => "core::option::Option<f64>"

end RealColumn

/-- Why the storage behind a store failed. -/
inductive StorageFailure where
  /-- The store was told to fail with this text. -/
  | reported (text : String)
  | database (error : DatabaseError)
  /-- A column holds a text that is no instant or no date. -/
  | badTime (column : String) (cause : TimeTextError)
  /-- A column of numbers holds a text. -/
  | notReal (column : RealColumn)
deriving DecidableEq, Repr

namespace StorageFailure

/-- The wording of the failure. -/
def message : StorageFailure → String
  | reported text => text
  | database error => "database error: " ++ error.message
  | badTime column cause => "decode error: " ++ column ++ ": " ++ cause.message
  | notReal column =>
      "decode error: error occurred while decoding column \"" ++ column.name ++
        "\": mismatched types; Rust type `" ++ column.wanted ++
        "` (as SQL type `REAL`) is not compatible with SQL type `TEXT`"

end StorageFailure

/-- Why a call of a store failed. -/
inductive StoreError where
  | storage (failure : StorageFailure)
  | invalidNumber (field : String) (value : String)
deriving DecidableEq, Repr

namespace StoreError

/-- The wording of the error; a refused number is shown as it was given. -/
def message : StoreError → String
  | storage failure => "storage failure: " ++ failure.message
  | invalidNumber field value => "invalid numeric value for " ++ field ++ ": `" ++ value ++ "`"

/-- The caller is at fault, not the store. -/
def isInvalidInput : StoreError → Bool
  | storage _ => false
  | invalidNumber .. => true

end StoreError

/-- A call of a store with states `σ`. -/
abbrev Act (σ α : Type) := ExceptT StoreError (StateM σ) α

namespace Act

/-- Run a call on a part of a larger state. -/
def within {σ τ α : Type} (get : τ → σ) (set : σ → τ → τ) (act : Act σ α) : Act τ α :=
  fun whole =>
    let (result, part) := act (get whole)
    (result, set part whole)

/-- Make calls one after another: what each answered, and the state after them. -/
def runAll {κ σ α : Type} (run : κ → Act σ α) : List κ → σ → List (Except StoreError α) × σ
  | [], state => ([], state)
  | call :: rest, state =>
      let (answer, state) := run call state
      let (answers, state) := runAll run rest state
      (answer :: answers, state)

end Act

/-- The number that a user wrote, for the field named. -/
def parseNumber (field value : String) : Except StoreError Number :=
  match Number.ofText? value with
  | some number => .ok number
  | none => .error (.invalidNumber field value)

end ChatRobots
