/-
Module: ChatRobots.Json.Basic
Purpose: JSON values and their written forms.
Main exports: Json, Json.render, Json.renderPretty, Json.quote
-/
import ChatRobots.Number.Writer
import ChatRobots.Calendar.DateText

namespace ChatRobots

/-!
A JSON value keeps the members of an object in the order in which they were given, and that is
the order in which they are written.  Strings escape the quote, the backslash and the controls
below the blank, and nothing else.  The compact form has no blanks at all; the pretty form has one
member to a line, two blanks of indentation a level, and a blank after each colon.
-/

/-- A JSON value. -/
inductive Json where
  | null
  | bool (value : Bool)
  | integer (value : Int)
  | number (value : Number)
  | string (value : String)
  | array (items : List Json)
  | object (members : List (String × Json))

namespace Json

/-- A digit of a `\u` escape, in lower case. -/
def hexDigit (n : Nat) : Char :=
  (Nat.toDigits 16 n).getLastD '0'

/-- The written form of one character within a string. -/
def escape (c : Char) : List Char :=
  match c with
  | '"' => ['\\', '"']
  | '\\' => ['\\', '\\']
  | '\n' => ['\\', 'n']
  | '\r' => ['\\', 'r']
  | '\t' => ['\\', 't']
  | '\x08' => ['\\', 'b']
  | '\x0c' => ['\\', 'f']
  | c =>
      if c.toNat < 0x20 then
        ['\\', 'u', '0', '0', hexDigit (c.toNat / 16), hexDigit (c.toNat % 16)]
      else [c]

/-- A string in quotes. -/
def quote (text : String) : List Char :=
  '"' :: text.toList.flatMap escape ++ ['"']

def renderInt (value : Int) : List Char :=
  if value < 0 then '-' :: Nat.toDigits 10 value.natAbs else Nat.toDigits 10 value.natAbs

mutual

/-- The compact form. -/
def renderChars : Json → List Char
  | null => ['n', 'u', 'l', 'l']
  | bool true => ['t', 'r', 'u', 'e']
  | bool false => ['f', 'a', 'l', 's', 'e']
  | integer value => renderInt value
  | number value => value.toText.toList
  | string value => quote value
  | array items => '[' :: renderItems items ++ [']']
  | object members => '\x7b' :: renderMembers members ++ ['\x7d']

/-- The items of an array, with commas between them. -/
def renderItems : List Json → List Char
  | [] => []
  | [item] => renderChars item
  | item :: next :: rest => renderChars item ++ ',' :: renderItems (next :: rest)

/-- The members of an object, with commas between them. -/
def renderMembers : List (String × Json) → List Char
  | [] => []
  | [(name, value)] => quote name ++ ':' :: renderChars value
  | (name, value) :: next :: rest =>
      quote name ++ ':' :: renderChars value ++ ',' :: renderMembers (next :: rest)

end

/-- The compact form as a text. -/
def render (json : Json) : String :=
  String.ofList json.renderChars

/-- A new line with the indentation of the level. -/
def newLine (level : Nat) : List Char :=
  '\n' :: List.replicate (2 * level) ' '

mutual

/-- The pretty form, at a level of indentation. -/
def prettyChars (level : Nat) : Json → List Char
  | array [] => ['[', ']']
  | object [] => ['\x7b', '\x7d']
  | array (item :: rest) => '[' :: prettyItems (level + 1) (item :: rest) ++ newLine level ++ [']']
  | object (member :: rest) =>
      '\x7b' :: prettyMembers (level + 1) (member :: rest) ++ newLine level ++ ['\x7d']
  | null => ['n', 'u', 'l', 'l']
  | bool value => renderChars (bool value)
  | integer value => renderInt value
  | number value => value.toText.toList
  | string value => quote value

def prettyItems (level : Nat) : List Json → List Char
  | [] => []
  | [item] => newLine level ++ prettyChars level item
  | item :: next :: rest =>
      newLine level ++ prettyChars level item ++ ',' :: prettyItems level (next :: rest)

def prettyMembers (level : Nat) : List (String × Json) → List Char
  | [] => []
  | [(name, value)] => newLine level ++ quote name ++ ':' :: ' ' :: prettyChars level value
  | (name, value) :: next :: rest =>
      newLine level ++ quote name ++ ':' :: ' ' :: prettyChars level value
        ++ ',' :: prettyMembers level (next :: rest)

end

/-- The pretty form as a text. -/
def renderPretty (json : Json) : String :=
  String.ofList (json.prettyChars 0)

end Json

end ChatRobots
