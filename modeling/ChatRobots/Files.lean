/-
Module: ChatRobots.Files
Purpose: The files that a program finds in its working directory.
Main exports: Files, Files.entry?, Files.readText, Files.put
-/
import ChatRobots.Text.Split
import ChatRobots.Text.Utf8

namespace ChatRobots

/-!
The working directory is a tree of files, held as the list of its paths.  A directory is there
when it is listed itself or something below it is.  A path is walked part by part: a dot stays,
two dots go back, and every part before the last must be a directory.
-/

/-- What a path leads to. -/
inductive FileEntry where
  | bytes (content : List UInt8)
  | directory
  /-- A database, with the versions of the migrations applied to it. -/
  | database (applied : List Nat)
deriving DecidableEq, Repr

/-- The files of a working directory, under the parts of their paths. -/
structure Files where
  entries : List (List String × FileEntry) := []

/-- Why a file could not be read. -/
inductive ReadError where
  | isDirectory
  | notUtf8
deriving DecidableEq, Repr

namespace ReadError

def message : ReadError → String
  | isDirectory => "Is a directory (os error 21)"
  | notUtf8 => "stream did not contain valid UTF-8"

end ReadError

namespace Files

/-- The parts of a path; none when it does not start in the working directory. -/
def parts? (path : String) : Option (List String) :=
  match path.toList with
  | [] => none
  | '/' :: _ => none
  | chars => some ((Text.pieces '/' chars).map String.ofList)

/-- What stands under the parts of a path. -/
def lookup? (files : Files) (parts : List String) : Option FileEntry :=
  match files.entries.lookup parts with
  | some entry => some entry
  | none =>
      if parts.isEmpty || files.entries.any fun (other, _) => parts.isPrefixOf other then
        some .directory
      else none

/-- Follow the parts of a path from a directory: the place it leads to. -/
def walk? (files : Files) (place : List String) : List String → Option (List String)
  | [] => some place
  | part :: rest =>
      if files.lookup? place = some .directory then
        if part = "" ∨ part = "." then walk? files place rest
        else if part = ".." then
          if place.isEmpty then none else walk? files place.dropLast rest
        else walk? files (place ++ [part]) rest
      else none

/-- The place that a path leads to, whether or not there is anything. -/
def place? (files : Files) (path : String) : Option (List String) :=
  (parts? path).bind (files.walk? [])

/-- What a path leads to. -/
def entry? (files : Files) (path : String) : Option FileEntry :=
  (files.place? path).bind files.lookup?

/-- There is something under the path. -/
def pathExists (files : Files) (path : String) : Bool :=
  (files.entry? path).isSome

/-- The text of the file that a path leads to, if it leads to one. -/
def readText (files : Files) (path : String) : Except ReadError String :=
  match files.entry? path with
  | some (.bytes content) =>
      match Text.decodeUtf8? content with
      | some text => .ok (String.ofList text)
      | none => .error .notUtf8
  | some (.database _) => .error .notUtf8
  | some .directory | none => .error .isDirectory

/-- Put an entry at a place. -/
def put (place : List String) (entry : FileEntry) (files : Files) : Files :=
  ⟨files.entries.filter (fun other => other.1 != place) ++ [(place, entry)]⟩

/-- An entry is found at the place where it was put. -/
theorem lookup?_put (place : List String) (entry : FileEntry) (files : Files) :
    (files.put place entry).lookup? place = some entry := by
  have absent : (files.entries.filter fun other => other.1 != place).lookup place = none := by
    rw [List.lookup_eq_none_iff]
    intro other h
    have kept : other.1 ≠ place := bne_iff_ne.1 (List.mem_filter.1 h).2
    simpa using Ne.symm kept
  simp [lookup?, put, List.lookup_append, absent]

/-- Files under relative paths. -/
def ofList (entries : List (String × FileEntry)) : Files :=
  entries.foldl (fun files (path, entry) => files.put
    (((Text.pieces '/' path.toList).map String.ofList).filter fun part => part ≠ "" ∧ part ≠ ".")
    entry) {}

end Files

end ChatRobots
