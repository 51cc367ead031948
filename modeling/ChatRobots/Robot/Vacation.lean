/-
Module: ChatRobots.Robot.Vacation
Purpose: The robot that knows who is out of office.
Main exports: VacationAction, VacationRobot.handle, VacationRobot.robot
-/
import ChatRobots.Calendar.DateText
import ChatRobots.Vacations.Basic
import ChatRobots.Robot.Registry
import ChatRobots.Robot.Router

namespace ChatRobots

/-!
The robot answers each command with one message.  Days are read in their written form and shown
with weekday, month and day.
-/

inductive VacationAction where
  | set
  | list
  | whoIsOut
deriving DecidableEq, Repr

namespace VacationRobot

open Vacations

def messenger (teamDomain : Option String) : Messenger :=
  ⟨BotIdentity.ofTexts "Vacation" ":surfer:", teamDomain⟩

def router (messenger : Messenger) : Router VacationAction :=
  Router.new "vacation" messenger
    |>.register "set" .set
    |>.register "list" .list
    |>.register "whoisout" .whoIsOut

/-- The line about one vacation. -/
def vacationLine (vacation : Vacation) : String :=
  "- *" ++ vacation.user ++ "* is out from *" ++ vacation.startDate.toShortText ++
    "* to *" ++ vacation.endDate.toShortText ++ "*"

/-- The line about one vacation with the days that are left of it. -/
def outLine (today : Date) (vacation : Vacation) : String :=
  vacationLine vacation ++ ". They're out for another *" ++
    toString (vacation.daysRemaining today) ++ "* days."

/-- The day that a user wrote. -/
def readDay {σ : Type} (raw : String) : Handling σ Date :=
  match Date.ofText raw with
  | .ok date => pure date
  | .error _ => throw (.invalidInput ("invalid date `" ++ raw ++ "`, expected YYYY-MM-DD"))

variable {σ : Type} (store : Backend σ) (today : Date)

def set (payload : Payload) (command : Command) : Handling σ String := do
  let dates ← requireArgs command ["start-date", "end-date"]
  let startDate ← readDay (dates.headD "")
  let endDate ← readDay (dates.getD 1 "")
  if startDate ≤ endDate then do
    let _ ← callStore (store.create payload.userName (command.strFrom 2) startDate endDate)
    pure "Vacation created"
  else
    pure ("The end date *" ++ endDate.toShortText ++ "* is before the start date *" ++
      startDate.toShortText ++ "*.")

/-- The reply to an action. -/
def reply (action : VacationAction) (payload : Payload) (command : Command) :
    Handling σ String :=
  match action with
  | .set => set store payload command
  | .list => do
      let vacations ← callStore (store.upcoming today)
      pure (if vacations.isEmpty then "No current or upcoming vacations"
        else "Here is a list of current and upcoming vacations:\n" ++
          "\n".intercalate (vacations.map vacationLine))
  | .whoIsOut => do
      let vacations ← callStore (store.current today)
      pure (if vacations.isEmpty then "No one is out right now"
        else "Here is a list of people that are out:\n" ++
          "\n".intercalate (vacations.map (outLine today)))

/-- Perform an action and answer. -/
def handle (messenger : Messenger) : Router.Handler VacationAction σ :=
  fun action payload command => do
    let text ← reply store today action payload command
    messenger.say payload text

/-- The robot over a vacation store. -/
def robot (teamDomain : Option String) : Robot σ where
  name := "Vacation"
  description := "Tracks who is out of office"
  messenger := VacationRobot.messenger teamDomain
  run clock payload := do
    let messenger := VacationRobot.messenger teamDomain
    let _ ← (router messenger).dispatch (handle store clock.today messenger) payload payload.text
    pure .finished

end VacationRobot

end ChatRobots
