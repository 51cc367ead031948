/-
Module: ChatRobots.Robot.Error
Purpose: What can go wrong while a robot handles a command.
Main exports: ReplyError, RobotError
-/
import ChatRobots.StoreError

namespace ChatRobots

/-!
Handling a command fails when a store fails, when a reply cannot be delivered, when arguments are
missing, or when an argument makes no sense.  The failures of the stores and of the delivery are
passed on in their own words.
-/

/-- Why a message was not delivered. -/
inductive ReplyError where
  | transport (cause : String)
  | rejected (status : Nat) (body : String)
deriving DecidableEq, Repr

namespace ReplyError

def message : ReplyError → String
  | transport cause => "webhook transport failed: " ++ cause
  | rejected status body =>
      "webhook rejected message with status " ++ toString status ++ ": " ++ body

end ReplyError

/-- Why a command failed. -/
inductive RobotError where
  | store (error : StoreError)
  | reply (error : ReplyError)
  | missingArguments (usage : String)
  | invalidInput (text : String)
deriving DecidableEq, Repr

namespace RobotError

def message : RobotError → String
  | store error => error.message
  | reply error => error.message
  | missingArguments usage => "missing arguments, expected: " ++ usage
  | invalidInput text => text

end RobotError

end ChatRobots
