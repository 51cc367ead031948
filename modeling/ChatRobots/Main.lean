/-
Module: ChatRobots.Main
Purpose: The program of the operator.
Main exports: main
-/
import ChatRobots.Database.File
import ChatRobots.Operator.CommandLine

namespace ChatRobots.Program

/-- The variables of this process. -/
def readEnvironment : IO Environment := do
  let content ← IO.FS.readBinFile "/proc/self/environ"
  pure (Environment.ofBlock (String.ofList (Text.decodeUtf8Lossy content.toList)))

/-- What is under a path of the working directory. -/
def readEntry? (path : String) : IO (Option FileEntry) := do
  try
    let content ← IO.FS.readBinFile path
    pure (some (FileEntry.ofBytes content.toList))
  catch
    | .noFileOrDirectory .. => pure none
    | _ => pure (some .directory)

/-- What is under the paths. -/
def readEntries (paths : List String) : IO (List (String × FileEntry)) := do
  let entries ← paths.mapM fun path => do pure (path, ← readEntry? path)
  pure (entries.filterMap fun (path, entry) => entry.map ((path, ·)))

/-- The directories that a path leads through, and the path itself. -/
def stations (path : String) : List String :=
  let parts := (Text.pieces '/' path.toList).map String.ofList
  (List.range parts.length).map fun n => "/".intercalate (parts.take (n + 1))

/-- The files that the program may need. -/
def readFiles (env : Environment) : IO Files := do
  let entries ← readEntries usualConfigPaths
  let files := Files.ofList entries
  let database ← readEntries (((databaseFile? files env).map stations).getD [])
  pure (Files.ofList (entries ++ database))

/-- Write the files that have changed. -/
def writeFiles (before after : Files) : IO Unit :=
  after.entries.forM fun (place, entry) => do
    unless before.entries.lookup place == some entry do
      IO.FS.writeBinFile ("/".intercalate place) (ByteArray.mk entry.toBytes.toArray)

end ChatRobots.Program

open ChatRobots ChatRobots.Program in
/-- Run the program, and end with its code. -/
def main (arguments : List String) : IO UInt32 := do
  let env ← readEnvironment
  let files ← readFiles env
  let (run, after) := CommandRun.ofArguments env files arguments
  writeFiles files after
  IO.print run.output
  IO.eprint run.complaint
  pure run.exitCode.toUInt32
