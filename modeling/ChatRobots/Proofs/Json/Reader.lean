/-
Module: ChatRobots.Proofs.Json.Reader
Purpose: How a receiver reads a JSON text.
Main exports: Json.read?, Json.readValue, Json.readParts, Json.readString
-/
import ChatRobots.Json.Basic
import ChatRobots.Text.Hex

namespace ChatRobots.Json

/-!
A receiver knows nothing of how a text was written: it takes blanks wherever they may stand, every
escape in every spelling, and any number, and it refuses what the grammar of JSON does not allow,
such as a control within a string or a comma before a closing bracket.  Of what it reads it keeps
the members of an object in their order.

Fuel bounds how deep values lie in one another, and how many parts follow one another.  Each of
them takes up a character, so the length of the text is fuel enough.
-/

/-- One of the four blanks that may stand between the signs of a text. -/
def isSpace (c : Char) : Bool :=
  c == ' ' || c == '\t' || c == '\n' || c == '\r'

/-- The text without the blanks at its beginning. -/
def skipBlanks (text : List Char) : List Char :=
  text.dropWhile isSpace

section Strings

/-- The character that an escape of one letter stands for. -/
def escaped? : Char → Option Char
  | '"' => some '"'
  | '\\' => some '\\'
  | '/' => some '/'
  | 'b' => some '\x08'
  | 'f' => some '\x0c'
  | 'n' => some '\n'
  | 'r' => some '\r'
  | 't' => some '\t'
  | _ => none

/-- The number that four hexadecimal digits denote, and what follows them. -/
def readUnit? : List Char → Option (Nat × List Char)
  | a :: b :: c :: d :: rest => do
      let a ← Text.hexValue? a
      let b ← Text.hexValue? b
      let c ← Text.hexValue? c
      let d ← Text.hexValue? d
      pure (((a * 16 + b) * 16 + c) * 16 + d, rest)
  | _ => none

/-- The character behind `\u`.  One beyond the first plane is written as two surrogates; a
surrogate without its partner is no character. -/
def readCodePoint? (text : List Char) : Option (Char × List Char) := do
  let (unit, rest) ← readUnit? text
  if unit < 0xd800 ∨ 0xe000 ≤ unit then pure (Char.ofNat unit, rest)
  else if unit < 0xdc00 then
    match rest with
    | '\\' :: 'u' :: rest => do
        let (low, rest) ← readUnit? rest
        if 0xdc00 ≤ low ∧ low < 0xe000 then
          pure (Char.ofNat (0x10000 + (unit - 0xd800) * 0x400 + (low - 0xdc00)), rest)
        else none
    | _ => none
  else none

/-- The character behind a backslash. -/
def readEscape? : List Char → Option (Char × List Char)
  | [] => none
  | mark :: rest =>
      if mark = 'u' then readCodePoint? rest
      else (escaped? mark).map fun c => (c, rest)

/-- One character of a string; its end is none. -/
def readMark? : List Char → Option (Char × List Char)
  | [] => none
  | c :: rest =>
      if c = '\\' then readEscape? rest
      else if c = '"' ∨ c.toNat < 0x20 then none
      else some (c, rest)

/-- The characters up to the closing quote, and what follows it. -/
def readString : Nat → List Char → Option (List Char × List Char)
  | 0, _ => none
  | fuel + 1, text =>
      match readMark? text with
      | some (c, rest) => (readString fuel rest).map fun (text, rest) => (c :: text, rest)
      | none =>
          match text with
          | '"' :: rest => some ([], rest)
          | _ => none

end Strings

section Numbers

/-- The digits at the beginning, of which there has to be one. -/
def readDigits? (text : List Char) : Option (List Char × List Char) :=
  let digits := text.takeWhile Char.isDigit
  if digits = [] then none else some (digits, text.dropWhile Char.isDigit)

/-- The digits behind a point, if there is a point. -/
def readFraction? : List Char → Option (List Char × List Char)
  | '.' :: rest => (readDigits? rest).map fun (digits, rest) => ('.' :: digits, rest)
  | text => some ([], text)

/-- The power of ten, if one is given. -/
def readPower? : List Char → Option (List Char × List Char)
  | [] => some ([], [])
  | mark :: text =>
      if mark = 'e' ∨ mark = 'E' then
        match text with
        | '+' :: rest => (readDigits? rest).map fun (digits, rest) => ('e' :: digits, rest)
        | '-' :: rest => (readDigits? rest).map fun (digits, rest) => ('e' :: '-' :: digits, rest)
        | rest => (readDigits? rest).map fun (digits, rest) => ('e' :: digits, rest)
      else some ([], mark :: text)

/-- A number; one without a point and a power is an integer. -/
def readNumber? (text : List Char) : Option (Json × List Char) := do
  let (sign, text) := match text with
    | '-' :: rest => (['-'], rest)
    | rest => ([], rest)
  let (whole, rest) ← readDigits? text
  if whole.head? = some '0' ∧ whole ≠ ['0'] then none
  else
    let (fraction, rest) ← readFraction? rest
    let (power, rest) ← readPower? rest
    if fraction = [] ∧ power = [] then
      let value : Int := digitsValue whole
      pure (integer (if sign = [] then value else -value), rest)
    else
      let value ← Number.ofText? (String.ofList (sign ++ whole ++ fraction ++ power))
      pure (number value, rest)

end Numbers

section Parts

variable {α : Type} (close : Char) (one : List Char → Option (α × List Char))

/-- One part or more with commas between them, up to the closing bracket. -/
def readParts : Nat → List Char → Option (List α × List Char)
  | 0, _ => none
  | fuel + 1, text => do
      let (part, rest) ← one text
      match skipBlanks rest with
      | [] => none
      | c :: rest =>
          if c = ',' then do
            let (parts, rest) ← readParts fuel rest
            pure (part :: parts, rest)
          else if c = close then pure ([part], rest)
          else none

/-- What stands between two brackets: parts, or nothing. -/
def readList (text : List Char) : Option (List α × List Char) :=
  match readParts close one text.length text with
  | some read => some read
  | none =>
      match skipBlanks text with
      | [] => none
      | c :: rest => if c = close then some ([], rest) else none

end Parts

/-- A name, up to its colon. -/
def readName? (text : List Char) : Option (String × List Char) :=
  match skipBlanks text with
  | '"' :: rest => do
      let (name, rest) ← readString (rest.length + 1) rest
      match skipBlanks rest with
      | ':' :: rest => pure (String.ofList name, rest)
      | _ => none
  | _ => none

/-- A name with a value, which is read by the reader that is given. -/
def readMember (value : List Char → Option (Json × List Char)) (text : List Char) :
    Option ((String × Json) × List Char) := do
  let (name, rest) ← readName? text
  let (value, rest) ← value rest
  pure ((name, value), rest)

/-- A value, and what follows it. -/
def readValue : Nat → List Char → Option (Json × List Char)
  | 0, _ => none
  | fuel + 1, text =>
      match skipBlanks text with
      | '"' :: rest => do
          let (text, rest) ← readString (rest.length + 1) rest
          pure (string (String.ofList text), rest)
      | '[' :: rest => do
          let (items, rest) ← readList ']' (readValue fuel) rest
          pure (array items, rest)
      | '\x7b' :: rest => do
          let (members, rest) ← readList '\x7d' (readMember (readValue fuel)) rest
          pure (object members, rest)
      | 't' :: 'r' :: 'u' :: 'e' :: rest => some (bool true, rest)
      | 'f' :: 'a' :: 'l' :: 's' :: 'e' :: rest => some (bool false, rest)
      | 'n' :: 'u' :: 'l' :: 'l' :: rest => some (null, rest)
      | rest => readNumber? rest

/-- The value that a text denotes, with nothing but blanks behind it. -/
def read? (text : String) : Option Json :=
  match readValue text.toList.length text.toList with
  | some (value, rest) => if skipBlanks rest = [] then some value else none
  | none => none

end ChatRobots.Json
