/-
Module: ChatRobots.Http.Form
Purpose: Form data: fields in one text, percent-encoded.
Main exports: percentDecode, formFields, distinctFields
-/
import ChatRobots.Text.Hex
import ChatRobots.Text.Utf8

namespace ChatRobots.Http

/-!
Form data is a sequence of fields with `&` between them, each a name and a value with `=` between
them.  In names and values a plus stands for a space and a percent sign with two hexadecimal
digits for a byte; a percent sign without them stands for itself.  The bytes are then read as
UTF-8.  A field without `=` has an empty value, and an empty field is none.
-/

/-- The byte that a percent sign and two digits stand for. -/
def escapedByte? (sign high low : UInt8) : Option UInt8 :=
  if sign = 0x25 then
    match Text.hexValue? (Char.ofNat high.toNat), Text.hexValue? (Char.ofNat low.toNat) with
    | some h, some l => some (UInt8.ofNat (h * 16 + l))
    | _, _ => none
  else none

/-- Replace escapes by the bytes they stand for. -/
def percentDecode : List UInt8 → List UInt8
  | sign :: high :: low :: rest =>
      match escapedByte? sign high low with
      | some byte => byte :: percentDecode rest
      | none => sign :: percentDecode (high :: low :: rest)
  | bytes => bytes
termination_by bytes => bytes.length

/-- Cut bytes at every separator. -/
def splitBytes (separator : UInt8) : List UInt8 → List (List UInt8)
  | [] => [[]]
  | byte :: rest =>
      if byte = separator then [] :: splitBytes separator rest
      else match splitBytes separator rest with
        | [] => [[byte]]
        | first :: others => (byte :: first) :: others

/-- The text of a name or a value. -/
def formText (bytes : List UInt8) : String :=
  String.ofList <| Text.decodeUtf8Lossy <| percentDecode <|
    bytes.map fun byte => if byte = 0x2b then 0x20 else byte

/-- Name and value of one field. -/
def formField (bytes : List UInt8) : String × String :=
  (formText (bytes.takeWhile (· != 0x3d)), formText ((bytes.dropWhile (· != 0x3d)).drop 1))

/-- The fields of form data, in order. -/
def formFields (bytes : List UInt8) : List (String × String) :=
  ((splitBytes 0x26 bytes).filter fun field => !field.isEmpty).map formField

/-- The first of the known names that has a second field. -/
def firstDuplicate? (known : List String) : List (String × String) → Option String
  | [] => none
  | fields => go [] fields
where
  go (seen : List String) : List (String × String) → Option String
    | [] => none
    | (name, _) :: rest =>
        if known.contains name then
          if seen.contains name then some name else go (name :: seen) rest
        else go seen rest

/-- The fields as a lookup, unless a known name has two. -/
def distinctFields (known : List String) (fields : List (String × String)) :
    Except String (List (String × String)) :=
  match firstDuplicate? known fields with
  | some name => .error ("duplicate field `" ++ name ++ "`")
  | none => .ok fields

end ChatRobots.Http
