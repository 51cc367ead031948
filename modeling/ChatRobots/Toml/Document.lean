/-
Module: ChatRobots.Toml.Document
Purpose: Documents, and the rules for what may be said about a table twice.
Main exports: Toml.parse?
-/
import ChatRobots.Toml.Scalar

namespace ChatRobots.Toml

open Reader

/-!
A document is a sequence of lines, each a header or a key with its value.  A header opens a table,
and the keys after it belong to that table; a key with dots names tables on the way.

No key is given twice.  A table that was only named on the way to another may still be opened by a
header of its own, once; a dotted key may only pass through tables that came about by dotted keys
or on the way, and may only add to a table that came about by dotted keys.  What stands between
braces or brackets is complete.
-/

/-! ## Tables -/

/-- Replace the value of a key where it stands. -/
def replace (key : String) (value : Value) : Entries → Entries
  | [] => []
  | (k, v) :: rest => if k = key then (k, value) :: rest else (k, v) :: replace key value rest

/-- Change the table at the end of a path, creating tables on the way.  A path of a dotted key
passes only through tables that nobody has opened; a path of a header also through the last item
of an array of tables. -/
def descend {α : Type} (dotted : Bool) (change : Origin → Entries → Option (α × Entries)) :
    List String → Origin → Entries → Option (α × Entries)
  | [], origin, entries => change origin entries
  | key :: path, _, entries =>
      match entries.lookup key with
      | none => do
          let origin : Origin := ⟨true, dotted⟩
          let (a, child) ← descend dotted change path origin []
          pure (a, entries ++ [(key, .table origin child)])
      | some (.table origin child) => do
          if dotted && !origin.implicit then none
          else
            let (a, child) ← descend dotted change path origin child
            pure (a, replace key (.table origin child) entries)
      | some (.tables items) => do
          let last ← items.getLast?
          let (a, child) ← descend dotted change path {} last
          pure (a, replace key (.tables (items.dropLast ++ [child])) entries)
      | some _ => none

/-- Add a key that is not there yet. -/
def addEntry (key : String) (value : Value) (entries : Entries) : Option Entries :=
  match entries.lookup key with
  | some _ => none
  | none => some (entries ++ [(key, value)])

/-- Add a key with dots: its last part to the table that the parts before it name, which must have
come about by dotted keys. -/
def addPath (path : List String) (value : Value) (entries : Entries) : Option Entries := do
  let key ← path.getLast?
  let change (origin : Origin) (entries : Entries) : Option (Unit × Entries) :=
    if origin.dotted = path.dropLast.isEmpty then none
    else (addEntry key value entries).map ((), ·)
  let (_, entries) ← descend true change path.dropLast {} entries
  pure entries

/-- A document that is being read: the finished part, and the table that is open. -/
structure Draft where
  root : Entries := []
  /-- The path of the open table, empty for the document itself. -/
  path : List String := []
  /-- The open table is an item of an array of tables. -/
  item : Bool := false
  current : Entries := []

namespace Draft

/-- Put the open table where it belongs. -/
def close (draft : Draft) : Option Entries :=
  match draft.path.getLast? with
  | none => some draft.current
  | some key => do
      let place (_ : Origin) (entries : Entries) : Option (Unit × Entries) :=
        if draft.item then
          match entries.lookup key with
          | none => some ((), entries ++ [(key, .tables [draft.current])])
          | some (.tables items) =>
              some ((), replace key (.tables (items ++ [draft.current])) entries)
          | some _ => none
        else
          match entries.lookup key with
          | none => some ((), entries ++ [(key, .table {} draft.current)])
          | some (.table origin _) =>
              if origin.implicit then some ((), replace key (.table {} draft.current) entries)
              else none
          | some _ => none
      let (_, root) ← descend false place draft.path.dropLast {} draft.root
      pure root

/-- Open a table with a header. -/
def openTable (path : List String) (draft : Draft) : Option Draft := do
  let root ← draft.close
  let key ← path.getLast?
  let take (_ : Origin) (entries : Entries) : Option (Entries × Entries) :=
    match entries.lookup key with
    | none => some ([], entries)
    | some (.table origin child) =>
        if origin.implicit && !origin.dotted then
          some (child, entries.filter fun entry => entry.1 != key)
        else none
    | some _ => none
  let (current, root) ← descend false take path.dropLast {} root
  pure ⟨root, path, false, current⟩

/-- Open an item of an array of tables with a header. -/
def openItem (path : List String) (draft : Draft) : Option Draft := do
  let root ← draft.close
  let key ← path.getLast?
  let reserve (_ : Origin) (entries : Entries) : Option (Unit × Entries) :=
    match entries.lookup key with
    | none => some ((), entries ++ [(key, .tables [])])
    | some (.tables _) => some ((), entries)
    | some _ => none
  let (_, root) ← descend false reserve path.dropLast {} root
  pure ⟨root, path, true, []⟩

/-- Add a key to the open table. -/
def add (path : List String) (value : Value) (draft : Draft) : Option Draft := do
  let current ← addPath path value draft.current
  pure { draft with current := current }

end Draft

/-! ## Lines -/

def isBareKeyChar (c : Char) : Bool :=
  c.isAlphanum || c == '_' || c == '-'

/-- One part of a key. -/
def keyPart : Reader String := do
  blanks
  let part ← do
    if ← accept ['"'] then quotedText
    else if ← accept ['\''] then literalText
    else do
      let bare ← takeWhile isBareKeyChar
      require !bare.isEmpty
      pure (String.ofList bare)
  blanks
  pure part

/-- How deep values may be nested, and how many parts a key may have. -/
def depthLimit : Nat := 80

/-- A key, with dots between its parts. -/
def key : Reader (List String) := do
  let first ← keyPart
  let rest ← collect do
    if ← accept ['.'] then some <$> keyPart else pure none
  require (rest.length + 1 < depthLimit)
  pure (first :: rest)

/-- Items with commas between them, and after the last one if that is allowed, up to the mark
that closes them. -/
def items {α : Type} (closing : Char) (gap : Reader Unit) (trailing : Bool) (item : Reader α) :
    Reader (List α) := do
  gap
  if ← accept [closing] then pure []
  else do
    let first ← item
    gap
    let rest ← collect do
      if ← accept [closing] then pure none
      else do
        exactly [',']
        gap
        if trailing then
          if ← accept [closing] then pure none
          else do
            let a ← item
            gap
            pure (some a)
        else do
          let a ← item
          gap
          pure (some a)
    pure (first :: rest)

/-- A key, an equals sign and a value. -/
def assignment (value : Reader Value) : Reader (List String × Value) := do
  let path ← key
  exactly ['=']
  blanks
  let value ← value
  pure (path, value)

/-- A value that holds no others. -/
def scalar : Reader Value := do
  match ← peek with
  | some '"' | some '\'' => .string <$> anyText
  | some 't' => do exactly "true".toList; pure (.boolean true)
  | some 'f' => do exactly "false".toList; pure (.boolean false)
  | some _ => do
      match ← attempt moment with
      | some value => pure value
      | none => number
  | none => fail

/-- A value with at most so many levels within it. -/
def value : Nat → Reader Value
  | 0 => scalar
  | levels + 1 => do
      if ← accept ['['] then
        .array <$> items ']' betweenItems true (value levels)
      else if ← accept ['\x7b'] then do
        let pairs ← items '\x7d' blanks false (assignment (value levels))
        let entries ← pairs.foldlM (fun entries (path, value) => addPath path value entries)
          ([] : Entries)
        pure (.inlineTable entries)
      else scalar

/-- One line of a document. -/
def line (draft : Draft) : Reader Draft := do
  match ← peek with
  | some '#' => do comment; lineEnd; pure draft
  | some '\n' | some '\r' => do newline; pure draft
  | some '[' => do
      if ← accept ['[', '['] then do
        let path ← key
        exactly [']', ']']
        restOfLine
        draft.openItem path
      else do
        exactly ['[']
        let path ← key
        exactly [']']
        restOfLine
        draft.openTable path
  | _ => do
      let (path, value) ← assignment (value (depthLimit - 1))
      restOfLine
      draft.add path value

/-- The lines of a document, at most so many. -/
def lines : Nat → Draft → Reader Draft
  | 0, _ => fail
  | bound + 1, draft => do
      blanks
      match ← peek with
      | none => pure draft
      | some _ => do
          let draft ← line draft
          lines bound draft

/-- Read a document; the mark of the byte order before it does not count. -/
def parse? (text : String) : Option Value := do
  let chars := match text.toList with
    | '\ufeff' :: rest => rest
    | chars => chars
  let (draft, _) ← lines (chars.length + 1) {} chars
  let root ← draft.close
  pure (.table {} root)

end ChatRobots.Toml
