/-
Module: ChatRobots.Database.Address
Purpose: Where a database is and how it is to be opened.
Main exports: DatabaseAddress, DatabaseAddress.ofUrl
-/
import ChatRobots.Database.Error
import ChatRobots.Http.Form
import ChatRobots.Text.Split

namespace ChatRobots

/-!
The address is a scheme, which may be missing or repeated, a path, and after a question mark
parameters in the form of form data.  The path is percent-encoded; the one word `:memory:` stands
for a database in memory.  Of several values for one parameter the last one counts, but opening
for reading only cannot be taken back, nor can creating or keeping in memory.
-/

/-- Where a database is and how it is to be opened. -/
structure DatabaseAddress where
  path : String
  /-- The database lives in memory. -/
  inMemory : Bool := false
  /-- Connections to it share what they hold in memory. -/
  shared : Bool := false
  readOnly : Bool := false
  createIfMissing : Bool := false
  /-- Nobody changes the file, so it need not be locked. -/
  immutable : Bool := false
  /-- The name of the file system to open it in. -/
  fileSystem : Option String := none
deriving DecidableEq, Repr

namespace DatabaseAddress

/-- Take a parameter into account. -/
def withParameter (address : DatabaseAddress) :
    String × String → Except AddressError DatabaseAddress
  | ("mode", "ro") => .ok { address with readOnly := true }
  | ("mode", "rw") => .ok address
  | ("mode", "rwc") => .ok { address with createIfMissing := true }
  | ("mode", "memory") => .ok { address with inMemory := true, shared := true }
  | ("cache", "private") => .ok { address with shared := false }
  | ("cache", "shared") => .ok { address with shared := true }
  | ("immutable", "true") | ("immutable", "1") => .ok { address with immutable := true }
  | ("immutable", "false") | ("immutable", "0") => .ok { address with immutable := false }
  | ("vfs", name) => .ok { address with fileSystem := some name }
  | (name, value) =>
      if ["mode", "cache", "immutable"].contains name then .error (.unknownValue name value)
      else .error (.unknownParameter name)

/-- The address without parameters. -/
def ofPath (path : List Char) : Except AddressError DatabaseAddress :=
  if path = ":memory:".toList then .ok { path := "", inMemory := true, shared := true }
  else
    let bytes := Http.percentDecode (Text.encodeUtf8 (String.ofList path))
    match Text.utf8Fault? bytes with
    | some fault => .error (.pathNotUtf8 fault)
    | none => .ok { path := String.ofList (Text.decodeUtf8Lossy bytes) }

/-- The address that a text gives. -/
def ofUrl (url : String) : Except AddressError DatabaseAddress := do
  let text := Text.dropRepeated "sqlite:".toList (Text.dropRepeated "sqlite://".toList url.toList)
  match Text.cut? '?' text with
  | none => ofPath text
  | some (path, parameters) =>
      (Http.formFields (Text.encodeUtf8 (String.ofList parameters))).foldlM withParameter
        (← ofPath path)

end DatabaseAddress

end ChatRobots
