/-
Module: ChatRobots.Robot.Registry
Purpose: Robots under their keys, and the request that starts one of them.
Main exports: Robot, RunEnd, Registry, Registry.spawn
-/
import ChatRobots.Dictionary
import ChatRobots.Calendar.Instant
import ChatRobots.Robot.Messenger
import ChatRobots.Text.Quoted

namespace ChatRobots

/-!
A robot is started by a request that names its key exactly.  It handles the request on a task of
its own and sends its own replies.  If it breaks off in the middle, what it has sent stays sent;
the task then says so, in the robot's name, in the channel the request came from, and to the log.
-/

/-- How the work of a robot came to its end. -/
inductive RunEnd where
  | finished
  /-- It broke off with this message. -/
  | broken (message : String)
deriving DecidableEq, Repr

/-- Date and time as a robot sees them. -/
structure Clock where
  now : Instant
  today : Date
deriving DecidableEq

/-- A robot over stores with states `σ`. -/
structure Robot (σ : Type) where
  name : String
  description : String
  messenger : Messenger
  run : Clock → Payload → Chat σ RunEnd

/-- The robots under their keys. -/
structure Registry (σ : Type) where
  robots : Dictionary (Robot σ) := .empty

namespace Registry

variable {σ : Type}

/-- Put a robot under keys; a later one replaces an earlier one. -/
def register (keys : List String) (robot : Robot σ) (registry : Registry σ) : Registry σ :=
  ⟨keys.foldl (fun robots key => robots.put key robot) registry.robots⟩

def get? (registry : Registry σ) (key : String) : Option (Robot σ) :=
  registry.robots.find? key

/-- The keys, in order. -/
def keys (registry : Registry σ) : List String :=
  registry.robots.keys

def size (registry : Registry σ) : Nat :=
  registry.robots.size

def isEmpty (registry : Registry σ) : Bool :=
  registry.size == 0

/-- The log's words for a task that broke off. -/
def breakReason (task message : String) : String :=
  "task " ++ task ++ " panicked with message " ++ Text.quoted message

/-- Run a robot on the task with this label, and report it when it breaks off. -/
def runTask (task : String) (clock : Clock) (robot : Robot σ) (payload : Payload) :
    Chat σ Unit := do
  match ← robot.run clock payload with
  | .finished => pure ()
  | .broken message => do
      logEvent (.taskBroken payload (breakReason task message))
      match ← robot.messenger.sendError payload
          "the robot crashed while handling this command" with
      | .ok () => pure ()
      | .error error => logEvent (.replyFailed payload payload.robot error)

/-- Find the robot for a request and note that it was asked. -/
def receive (registry : Registry σ) (payload : Payload) : Chat σ (Option (Robot σ)) := do
  match registry.get? payload.robot with
  | none => pure none
  | some robot => do
      logEvent (.commandReceived payload)
      pure (some robot)

/-- Start the robot for a request and wait for its end; whether there is such a robot. -/
def spawn (registry : Registry σ) (task : String) (clock : Clock) (payload : Payload) :
    Chat σ Bool := do
  match ← registry.receive payload with
  | none => pure false
  | some robot => do
      runTask task clock robot payload
      pure true

end Registry

end ChatRobots
