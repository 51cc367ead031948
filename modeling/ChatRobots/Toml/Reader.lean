/-
Module: ChatRobots.Toml.Reader
Purpose: Readers of texts, and what lies between the parts of a document.
Main exports: Reader, collect, blanks, newline, lineEnd, betweenItems
-/
import ChatRobots.Text.Split

namespace ChatRobots.Toml

/-!
A reader takes something from the front of a text, or fails.  A repeated reader stops where it
finds nothing more; it is bounded by the length of the text, which every repetition shortens.

Blanks are the space and the tab.  A line ends with a line feed, before which a carriage return
may stand, or with the text; a comment runs up to there.
-/

/-- A reader of characters. -/
abbrev Reader (α : Type) := StateT (List Char) Option α

namespace Reader

def fail {α : Type} : Reader α := fun _ => none

/-- The next character. -/
def next : Reader Char
  | [] => none
  | c :: rest => some (c, rest)

/-- The next character, which stays where it is. -/
def peek : Reader (Option Char) := fun text => some (text.head?, text)

/-- This text. -/
def exactly (lead : List Char) : Reader Unit := fun text =>
  (Text.afterLead? lead text).map ((), ·)

/-- Whether this text comes next; if so it is taken. -/
def accept (lead : List Char) : Reader Bool := fun text =>
  match Text.afterLead? lead text with
  | some rest => some (true, rest)
  | none => some (false, text)

/-- The characters up to the first that fails the test. -/
def takeWhile (test : Char → Bool) : Reader (List Char) := fun text =>
  some (text.takeWhile test, text.dropWhile test)

/-- What a reader finds, or nothing where it fails. -/
def attempt {α : Type} (reader : Reader α) : Reader (Option α) := fun text =>
  match reader text with
  | some (a, rest) => some (some a, rest)
  | none => some (none, text)

/-- Repeat a reader that tells when it is done, at most so often. -/
def collectUpTo {α : Type} (step : Reader (Option α)) : Nat → Reader (List α)
  | 0 => fail
  | bound + 1 => do
      match ← step with
      | none => pure []
      | some a => do
          let rest ← collectUpTo step bound
          pure (a :: rest)

/-- Repeat a reader that tells when it is done. -/
def collect {α : Type} (step : Reader (Option α)) : Reader (List α) := fun text =>
  collectUpTo step (text.length + 1) text

/-- This many characters, all of which pass the test. -/
def takeExactly (test : Char → Bool) (count : Nat) : Reader (List Char) := fun text =>
  let taken := text.take count
  if taken.length = count ∧ taken.all test then some (taken, text.drop count) else none

/-- Go on only if the condition holds. -/
def require (condition : Bool) : Reader Unit :=
  if condition then pure () else fail

end Reader

open Reader

def isBlank (c : Char) : Bool :=
  c == ' ' || c == '\t'

/-- The characters that may stand in a comment. -/
def isCommentChar (c : Char) : Bool :=
  c == '\t' || 0x20 ≤ c.toNat

def blanks : Reader Unit := do
  let _ ← takeWhile isBlank

/-- The end of a line. -/
def newline : Reader Unit := do
  if ← accept ['\n'] then pure () else exactly ['\r', '\n']

/-- A comment, if one begins here. -/
def comment : Reader Unit := do
  if ← accept ['#'] then
    let _ ← takeWhile isCommentChar

/-- The end of a line or of the text. -/
def lineEnd : Reader Unit := do
  match ← peek with
  | none => pure ()
  | some _ => newline

/-- What may follow on a line that is complete. -/
def restOfLine : Reader Unit := do
  blanks
  comment
  lineEnd

/-- Blanks, ends of lines and comments, as they may stand between the items of an array. -/
def betweenItems : Reader Unit := do
  let _ ← collect do
    match ← peek with
    | some '#' => do comment; pure (some ())
    | some ' ' | some '\t' => do let _ ← next; pure (some ())
    | some '\n' | some '\r' => do newline; pure (some ())
    | _ => pure none

end ChatRobots.Toml
