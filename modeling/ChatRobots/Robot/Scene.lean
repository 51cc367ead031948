/-
Module: ChatRobots.Robot.Scene
Purpose: The state in which robots work: stores, delivery, and the trace of what happened.
Main exports: Scene, Moment, Chat, Handling, logEvent, deliver
-/
import ChatRobots.Message.Basic
import ChatRobots.Log.Event

namespace ChatRobots

/-!
A scene is the state of the stores, the state of the delivery, and a trace.  The delivery either
works or refuses every message with one error.  The trace is what can be observed from outside, in
order: the events that were logged and the messages that were delivered.  Work only ever adds to
the trace.

`Chat` is work that always comes to an end; `Handling` can fail on the way, and what it has done
by then stays done.
-/

/-- One thing to be observed. -/
inductive Moment where
  | logged (event : Event)
  | sent (message : Message)
deriving DecidableEq, Repr

/-- The state of the stores and of the delivery, and what was observed so far. -/
structure Scene (σ : Type) where
  stores : σ
  refusal : Option ReplyError := none
  trace : List Moment := []

namespace Scene

variable {σ : Type}

/-- The messages delivered so far. -/
def messages (scene : Scene σ) : List Message :=
  scene.trace.filterMap fun
    | .sent message => some message
    | .logged _ => none

/-- The events logged so far. -/
def events (scene : Scene σ) : List Event :=
  scene.trace.filterMap fun
    | .logged event => some event
    | .sent _ => none

/-- The same scene with nothing observed yet. -/
def withoutTrace (scene : Scene σ) : Scene σ :=
  { scene with trace := [] }

/-- Refuse every later message. -/
def refuseWith (error : ReplyError) (scene : Scene σ) : Scene σ :=
  { scene with refusal := some error }

end Scene

/-- Work in a scene. -/
abbrev Chat (σ α : Type) := StateM (Scene σ) α

/-- Work in a scene that can fail. -/
abbrev Handling (σ α : Type) := ExceptT RobotError (StateM (Scene σ)) α

variable {σ : Type}

def logEvent (event : Event) : Chat σ Unit := fun scene =>
  ((), { scene with trace := scene.trace ++ [.logged event] })

/-- Deliver a message; a refused one leaves no trace. -/
def deliver (message : Message) : Chat σ (Except ReplyError Unit) := fun scene =>
  match scene.refusal with
  | some error => (.error error, scene)
  | none => (.ok (), { scene with trace := scene.trace ++ [.sent message] })

/-- Call a store; its failure is the failure of the work. -/
def callStore {α : Type} (act : Act σ α) : Handling σ α := fun scene =>
  match act scene.stores with
  | (.ok answer, stores) => (.ok answer, { scene with stores := stores })
  | (.error error, stores) => (.error (.store error), { scene with stores := stores })

end ChatRobots
