/-
Module: ChatRobots.Database.File
Purpose: How the state of a database is kept in a file.
Main exports: FileEntry.ofBytes, FileEntry.toBytes, databaseFile?
-/
import ChatRobots.Config.Load
import ChatRobots.Database.Pool

namespace ChatRobots

/-!
The file of a database begins with a line that says what it is.  After it comes a line for each
migration applied, with its version.
-/

/-- The line that the file of a database begins with. -/
def databaseMark : String := "relaybot database"

namespace FileEntry

/-- What a file with this content is. -/
def ofBytes (content : List UInt8) : FileEntry :=
  match (Text.decodeUtf8? content).map (Text.pieces '\n') with
  | some (mark :: versions) =>
      if mark = databaseMark.toList then
        .database (versions.filterMap fun version => (String.ofList version).toNat?)
      else .bytes content
  | _ => .bytes content

/-- The content of a file; a directory has none. -/
def toBytes : FileEntry → List UInt8
  | bytes content => content
  | directory => []
  | database applied =>
      Text.encodeUtf8 ("\n".intercalate (databaseMark :: applied.map toString) ++ "\n")

end FileEntry

/-- The path of the file that the configured database is in. -/
def databaseFile? (files : Files) (env : Environment) : Option String := do
  let config ← (Config.load files env {}).toOption
  let address ← (DatabaseAddress.ofUrl config.database.url).toOption
  if address.inMemory || address.filePath = "" then none else some address.filePath

end ChatRobots
