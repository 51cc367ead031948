/-
Module: ChatRobots.Log.Level
Purpose: How urgent a logged event is.
Main exports: LogLevel, LogLevel.ofText?, LogLevel.admits
-/
import ChatRobots.Text.Lowercase

namespace ChatRobots

/-- How urgent an event is, the most urgent first. -/
inductive LogLevel where
  | error
  | warn
  | info
  | debug
  | trace
deriving DecidableEq, Repr

namespace LogLevel

def name : LogLevel → String
  | error => "ERROR"
  | warn => "WARN"
  | info => "INFO"
  | debug => "DEBUG"
  | trace => "TRACE"

/-- The level that a word names, whatever the case of its letters. -/
def ofText? (text : String) : Option LogLevel :=
  match Text.asciiLowercase text with
  | "error" => some error
  | "warn" => some warn
  | "info" => some info
  | "debug" => some debug
  | "trace" => some trace
  | _ => none

/-- How far the level is from the most urgent one. -/
def distance : LogLevel → Nat
  | error => 0
  | warn => 1
  | info => 2
  | debug => 3
  | trace => 4

/-- A log with this threshold writes events of the level. -/
def admits (threshold level : LogLevel) : Bool :=
  level.distance ≤ threshold.distance

end LogLevel

end ChatRobots
