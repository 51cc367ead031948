/-
Module: ChatRobots.Proofs.Robot.Scenes
Purpose: What calls of a store and things said make of a scene.
Main exports: Messenger.message, Scene.heard, Scene.noted, run_callStore_of_ok, run_say,
  Registry.receive_of_get?, Registry.receive_of_unknown
-/
import Mathlib.Data.List.Basic
import ChatRobots.Proofs.Action
import ChatRobots.Robot.Registry

namespace ChatRobots

/-!
A call of a store changes the stores and leaves no trace; what is said is added to the trace, if
it can be delivered, and leaves the stores alone.
-/

/-- The message with this text that answers a payload. -/
def Messenger.message (messenger : Messenger) (payload : Payload) (text : String) : Message :=
  ⟨payload.teamDomain, payload.channelId, messenger.identity, text, []⟩

namespace Scene

variable {σ : Type}

/-- The same scene after some more messages were delivered. -/
def heard (scene : Scene σ) (messages : List Message) : Scene σ :=
  { scene with trace := scene.trace ++ messages.map .sent }

@[simp] theorem messages_heard (scene : Scene σ) (messages : List Message) :
    (scene.heard messages).messages = scene.messages ++ messages := by
  simp [heard, Scene.messages, List.filterMap_map]

theorem heard_heard (scene : Scene σ) (first second : List Message) :
    (scene.heard first).heard second = scene.heard (first ++ second) := by
  simp [heard]

/-- The same scene after one more event was logged. -/
def noted (scene : Scene σ) (event : Event) : Scene σ :=
  { scene with trace := scene.trace ++ [.logged event] }

@[simp] theorem messages_noted (scene : Scene σ) (event : Event) :
    (scene.noted event).messages = scene.messages := by
  simp [noted, Scene.messages]

@[simp] theorem events_noted (scene : Scene σ) (event : Event) :
    (scene.noted event).events = scene.events ++ [event] := by
  simp [noted, Scene.events]

theorem heard_nil (scene : Scene σ) : scene.heard [] = scene := by
  simp [heard]

end Scene

section Calls

variable {σ α : Type} {scene : Scene σ} {act : Act σ α} {store : σ}

theorem run_callStore_of_ok {a : α} (ok : act scene.stores = (.ok a, store)) :
    callStore act scene = (.ok a, { scene with stores := store }) := by
  rw [callStore, ok]

theorem run_callStore_of_error {error : StoreError}
    (failed : act scene.stores = (.error error, store)) :
    callStore act scene = (.error (.store error), { scene with stores := store }) := by
  rw [callStore, failed]

/-- What is said is delivered, as long as the delivery works. -/
theorem run_say (working : scene.refusal = none) (messenger : Messenger) (payload : Payload)
    (text : String) :
    messenger.say payload text scene = (.ok (), scene.heard [messenger.message payload text]) := by
  obtain ⟨stores, refusal, trace⟩ := scene
  obtain rfl : refusal = none := working
  rfl

end Calls

namespace Registry

variable {σ : Type} {registry : Registry σ} {payload : Payload}

/-- A request for a robot finds it, and it is noted that it was asked. -/
theorem receive_of_get? {robot : Robot σ} (found : registry.get? payload.robot = some robot)
    (scene : Scene σ) :
    registry.receive payload scene = (some robot, scene.noted (.commandReceived payload)) := by
  rw [receive, found]
  rfl

theorem receive_of_unknown (unknown : registry.get? payload.robot = none) (scene : Scene σ) :
    registry.receive payload scene = (none, scene) := by
  rw [receive, unknown]
  rfl

end Registry

end ChatRobots
