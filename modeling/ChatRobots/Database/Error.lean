/-
Module: ChatRobots.Database.Error
Purpose: What can go wrong between the program and its database.
Main exports: AddressError, Refusal, DatabaseError, DatabaseError.causes
-/
import ChatRobots.Text.Quoted
import ChatRobots.Text.Utf8

namespace ChatRobots

/-!
The address of a database can be wrong, the database can refuse what is asked of it, and there may
be no connection to ask through.  An error is worded together with its cause; where the cause has
a wording of its own, `causes` lists the wordings from the outermost to the innermost.
-/

/-- What is wrong with the address of a database. -/
inductive AddressError where
  | unknownValue (parameter value : String)
  | unknownParameter (name : String)
  /-- The path, its escapes replaced, is no UTF-8. -/
  | pathNotUtf8 (fault : Text.Utf8Fault)
deriving DecidableEq, Repr

namespace AddressError

def message : AddressError → String
  | unknownValue parameter value =>
      "unknown value " ++ Text.quoted value ++ " for `" ++ parameter ++ "`"
  | unknownParameter name => "unknown query parameter `" ++ name ++ "` while parsing connection URL"
  | pathNotUtf8 ⟨index, some length⟩ =>
      "invalid utf-8 sequence of " ++ toString length ++ " bytes from index " ++ toString index
  | pathNotUtf8 ⟨index, none⟩ => "incomplete utf-8 byte sequence from index " ++ toString index

end AddressError

/-- Why the database refused. -/
inductive Refusal where
  | unknownFileSystem (name : String)
  | cannotOpen
  | readOnly
  | noSuchTable (name : String)
  | foreignKey
deriving DecidableEq, Repr

namespace Refusal

def code : Refusal → Nat
  | unknownFileSystem _ => 1
  | noSuchTable _ => 1
  | readOnly => 8
  | cannotOpen => 14
  | foreignKey => 787

def text : Refusal → String
  | unknownFileSystem name => "no such vfs: " ++ name
  | cannotOpen => "unable to open database file"
  | readOnly => "attempt to write a readonly database"
  | noSuchTable name => "no such table: " ++ name
  | foreignKey => "FOREIGN KEY constraint failed"

def message (refusal : Refusal) : String :=
  "(code: " ++ toString refusal.code ++ ") " ++ refusal.text

end Refusal

/-- Why the database did not do what was asked. -/
inductive DatabaseError where
  | address (error : AddressError)
  /-- The path has a character that no path can have. -/
  | pathWithNul
  | refused (refusal : Refusal)
  /-- No connection could be made ready in time. -/
  | timedOut
  | poolClosed
deriving DecidableEq, Repr

namespace DatabaseError

/-- The wordings from the outermost to the innermost. -/
def causes : DatabaseError → List String
  | address error => ["error with configuration: " ++ error.message, error.message]
  | pathWithNul =>
      let cause := "filename passed to SQLite must not contain nul bytes"
      ["error communicating with database: " ++ cause, cause]
  | refused refusal => ["error returned from database: " ++ refusal.message, refusal.message]
  | timedOut => ["pool timed out while waiting for an open connection"]
  | poolClosed => ["attempted to acquire a connection on a closed pool"]

def message (error : DatabaseError) : String :=
  error.causes.headD ""

end DatabaseError

end ChatRobots
