/-
Module: ChatRobots.Toml.Value
Purpose: The data of a TOML document.
Main exports: Toml.Value, Toml.Moment, Toml.Value.at?
-/
import ChatRobots.Calendar.DateText

namespace ChatRobots.Toml

/-!
A document is a tree of tables.  Tables are found in three guises: as the value of a key between
braces, as tables with a header or a dotted key of their own, and as the items of an array of
tables.  For the last two it is remembered how they came about, because that decides who may still
add to them.
-/

/-- A date, a time, or both, with an offset in minutes when there is one. -/
structure Moment where
  date : Option (Nat × Nat × Nat)
  /-- Hour, minute, second and nanosecond. -/
  time : Option (Nat × Nat × Nat × Nat)
  /-- Minutes, or the letter for none. -/
  offset : Option (Option Int)
deriving DecidableEq, Repr

namespace Moment

def dateText : Nat × Nat × Nat → List Char
  | (year, month, day) =>
      paddedDigits 4 year ++ '-' :: paddedDigits 2 month ++ '-' :: paddedDigits 2 day

/-- The fraction of a second, without zeros at its end. -/
def fractionText (nanosecond : Nat) : List Char :=
  if nanosecond = 0 then []
  else '.' :: ((paddedDigits 9 nanosecond).reverse.dropWhile (· == '0')).reverse

def timeText : Nat × Nat × Nat × Nat → List Char
  | (hour, minute, second, nanosecond) =>
      paddedDigits 2 hour ++ ':' :: paddedDigits 2 minute ++ ':' :: paddedDigits 2 second
        ++ fractionText nanosecond

def offsetText : Option Int → List Char
  | none => ['Z']
  | some minutes =>
      (if minutes < 0 then '-' else '+') :: paddedDigits 2 (minutes.natAbs / 60)
        ++ ':' :: paddedDigits 2 (minutes.natAbs % 60)

/-- The moment as it is written. -/
def toText (moment : Moment) : String :=
  let date := moment.date.map dateText
  let time := moment.time.map timeText
  let parts := match date, time with
    | some date, some time => date ++ 'T' :: time
    | some date, none => date
    | none, some time => time
    | none, none => []
  String.ofList (parts ++ (moment.offset.map offsetText).getD [])

end Moment

/-- How a table came about. -/
structure Origin where
  /-- It was only named on the way to another one. -/
  implicit : Bool := false
  /-- It was named by a dotted key. -/
  dotted : Bool := false
deriving DecidableEq, Repr

/-- A value in a document. -/
inductive Value where
  | string (text : String)
  | integer (value : Int)
  | float
  | boolean (value : Bool)
  | moment (value : Moment)
  | array (items : List Value)
  /-- A table between braces, complete as it stands. -/
  | inlineTable (entries : List (String × Value))
  | table (origin : Origin) (entries : List (String × Value))
  /-- An array of tables, with a header for each. -/
  | tables (items : List (List (String × Value)))

/-- The entries of a table. -/
abbrev Entries := List (String × Value)

namespace Value

/-- The entries of a value that is a table. -/
def entries? : Value → Option Entries
  | inlineTable entries => some entries
  | table _ entries => some entries
  | _ => none

/-- The items of a value that is an array. -/
def items? : Value → Option (List Value)
  | array items => some items
  | tables items => some (items.map (table {}))
  | _ => none

/-- The value under a path of keys. -/
def at? (value : Value) : List String → Option Value
  | [] => some value
  | key :: path =>
      match value.entries? with
      | none => none
      | some entries =>
          match entries.lookup key with
          | none => none
          | some child => child.at? path

end Value

end ChatRobots.Toml
