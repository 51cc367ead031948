/-
Module: ChatRobots.Text.Quoted
Purpose: A text in quotes, in a form that shows every character.
Main exports: quoted
-/
import ChatRobots.Text.CaseTable
import ChatRobots.Text.PrintTable

namespace ChatRobots.Text

/-!
Diagnostic output shows texts in double quotes.  The quote, the backslash and the controls are
escaped, and so are the characters beyond ASCII that have no visible form of their own; all
others stand for themselves, an apostrophe included.
-/

/-- A character as its number between braces. -/
def unicodeEscape (c : Char) : List Char :=
  ['\\', 'u', '\x7b'] ++ Nat.toDigits 16 c.toNat ++ ['\x7d']

/-- The form of a character within quotes. -/
def quotedChar (c : Char) : List Char :=
  match c with
  | '\t' => ['\\', 't']
  | '\r' => ['\\', 'r']
  | '\n' => ['\\', 'n']
  | '"' => ['\\', '"']
  | '\\' => ['\\', '\\']
  | '\x00' => ['\\', '0']
  | c =>
      if c.toNat < 0x20 ∨ c.toNat = 0x7f then unicodeEscape c
      else if c.toNat < 0x80 then [c]
      else if inRanges hiddenRanges c then unicodeEscape c
      else [c]

/-- The text in quotes. -/
def quoted (text : String) : String :=
  String.ofList ('"' :: text.toList.flatMap quotedChar ++ ['"'])

end ChatRobots.Text
