/-
Module: ChatRobots.Database.Pool
Purpose: Connections to a database, and the migrations run through them.
Main exports: Pool, Pool.connect, Pool.migrate, Pool.revert, Pool.recordedVersions, Pool.ping
-/
import ChatRobots.Config.Basic
import ChatRobots.Database.Address
import ChatRobots.Database.Migration

namespace ChatRobots

/-!
Connecting finds the database or creates it.  An empty file is an empty database, any other file
that is none cannot be made ready; nor can a file that is open for reading only, because a new
connection switches it to a journal that has to be written down in it.  A file that nobody changes
is left as it is.

Connections share a database except when it has no name and lives only as long as they do: then
each has one of its own.  A call that comes right after another gets a new connection as long as
there may be more than one, and with it a database that is empty.
-/

/-- Connections to one database. -/
structure Pool where
  /-- The place of its file, if it has one. -/
  place : Option (List String) := none
  readOnly : Bool := false
  /-- Each connection has a database of its own. -/
  isolated : Bool := false
  /-- There may be more than one connection. -/
  several : Bool := true
  /-- The versions of the migrations applied. -/
  applied : List Nat := []
  closed : Bool := false
deriving DecidableEq, Repr

/-- Why migrations were not run. -/
inductive MigrationError where
  | execution (error : DatabaseError)
deriving DecidableEq, Repr

namespace MigrationError

/-- The wordings from the outermost to the innermost. -/
def causes : MigrationError → List String
  | execution error => ("while executing migrations: " ++ error.message) :: error.causes

def message (error : MigrationError) : String :=
  error.causes.headD ""

end MigrationError

/-- The file systems that files can be opened in. -/
def fileSystems : List String :=
  ["unix", "unix-none", "unix-dotfile", "unix-excl"]

namespace DatabaseAddress

/-- The path of the file; after a scheme of its own it is percent-encoded once more. -/
def filePath (address : DatabaseAddress) : String :=
  if address.immutable || address.fileSystem.isSome then address.path
  else match Text.afterLead? "file:".toList address.path.toList with
    | none => address.path
    | some path =>
        String.ofList <| Text.decodeUtf8Lossy <| Http.percentDecode <| Text.encodeUtf8 <|
          String.ofList <| path.takeWhile fun c => c != '#' && c != '?'

end DatabaseAddress

namespace Pool

/-- Find the file of a database, or create it. -/
def openFile (files : Files) (address : DatabaseAddress) (path : String) :
    Except DatabaseError (List String × List Nat) :=
  match files.place? path with
  | none => .error (.refused .cannotOpen)
  | some place =>
      match files.lookup? place with
      | some .directory => .error (.refused .cannotOpen)
      | none =>
          if address.createIfMissing && !address.readOnly then .ok (place, [])
          else .error (.refused .cannotOpen)
      | some (.database applied) => .ok (place, applied)
      | some (.bytes content) =>
          if content.isEmpty && (!address.readOnly || address.immutable) then .ok (place, [])
          else .error .timedOut

/-- Find the database of an address, or create it. -/
def openAddress (files : Files) (several : Bool) (address : DatabaseAddress) :
    Except DatabaseError Pool :=
  if address.path.toList.contains '\x00' then .error .pathWithNul
  else match address.fileSystem.filter fun name => !fileSystems.contains name with
    | some name => .error (.refused (.unknownFileSystem name))
    | none =>
        let path := address.filePath
        if address.inMemory || path = ":memory:" then
          .ok { readOnly := address.readOnly, isolated := !address.shared, several }
        else if path = "" then
          .ok { readOnly := address.readOnly, isolated := true, several }
        else do
          let (place, applied) ← openFile files address path
          pure {
            place := some place
            readOnly := address.readOnly || address.immutable
            several
            applied }

/-- Connect to the database of a configuration. -/
def connect (files : Files) (config : DatabaseConfig) : Except DatabaseError Pool := do
  let address ← (DatabaseAddress.ofUrl config.url).mapError DatabaseError.address
  openAddress files (config.maxConnections.val > 1) address

/-- The files after the database has been worked on. -/
def writeBack (pool : Pool) (files : Files) : Files :=
  match pool.place with
  | none => files
  | some place =>
      match pool.readOnly, files.lookup? place with
      | false, _ => files.put place (.database pool.applied)
      | true, none => files.put place (.bytes [])
      | true, some _ => files

/-- Ask the database whether it answers. -/
def ping (pool : Pool) : Except DatabaseError Unit :=
  if pool.closed then .error .poolClosed else .ok ()

/-- Give all connections back. -/
def close (pool : Pool) : Pool :=
  { pool with closed := true }

/-- Keep record of versions; the record itself is a table that has to be created first. -/
def record (pool : Pool) (versions : List Nat) : Except MigrationError Pool :=
  if pool.closed then .error (.execution .poolClosed)
  else if pool.readOnly && (pool.applied.isEmpty || versions != pool.applied) then
    .error (.execution (.refused .readOnly))
  else .ok { pool with applied := versions }

/-- Apply the migrations that have not been applied. -/
def migrate (pool : Pool) : Except MigrationError Pool :=
  pool.record allVersions

/-- Take back the migrations with versions above the target. -/
def revert (pool : Pool) (target : Int) : Except MigrationError Pool :=
  pool.record (pool.applied.filter fun version => (version : Int) ≤ target)

/-- The versions on record, as a call right after the migrations finds them. -/
def recordedVersions (pool : Pool) : Except DatabaseError (List Nat) :=
  if pool.isolated && pool.several then .error (.refused (.noSuchTable "_sqlx_migrations"))
  else .ok pool.applied

end Pool

end ChatRobots
