/-
Module: ChatRobots.Proofs.Robot.Supervision
Purpose: A payload starts the robot that was registered last under its key, once, and a robot that
  breaks off is reported.
Main exports: Registry.enrolled, registeredLast?, Registry.get?_enrolled, Registry.spawn_of_get?,
  Performer, Performer.robot, Registry.spawn_of_registered, Registry.spawn_contract
-/
import Mathlib.Data.Finset.Card
import ChatRobots.Proofs.Dictionary
import ChatRobots.Proofs.Robot.Scenes
import ChatRobots.Robot.Registry

namespace ChatRobots

/-!
A registry is filled by registrations, each of a robot under some keys.  Which robot a payload
starts is said over the registrations themselves, read backwards, and not over the table that they
leave.

Of a robot nothing is known but what it does when it is run: how the run ends, what it makes of the
stores and of the delivery, and what can be observed of it in the meantime, which may be any number
of messages before it breaks off.  Its runs are written down beside the stores, so that a run that
was not made, or made twice, or made for another payload, would show.
-/

/-- The last of the registrations that has the key. -/
def registeredLast? {α : Type} (registrations : List (List String × α)) (key : String) :
    Option α :=
  registrations.reverse.findSome? fun (keys, robot) => if key ∈ keys then some robot else none

section RegisteredLast

variable {α β : Type} (registrations : List (List String × α)) (key : String)

theorem registeredLast?_concat (keys : List String) (robot : α) :
    registeredLast? (registrations ++ [(keys, robot)]) key =
      if key ∈ keys then some robot else registeredLast? registrations key := by
  rw [registeredLast?, List.reverse_append, List.reverse_singleton, List.singleton_append,
    List.findSome?_cons]
  dsimp only
  by_cases own : key ∈ keys
  · rw [if_pos own, if_pos own]
  · rw [if_neg own, if_neg own]
    rfl

theorem isSome_registeredLast?_iff :
    (registeredLast? registrations key).isSome ↔
      ∃ registration ∈ registrations, key ∈ registration.1 := by
  simp [registeredLast?, List.findSome?_isSome_iff]

theorem registeredLast?_map (use : α → β) :
    registeredLast? (registrations.map fun (keys, robot) => (keys, use robot)) key =
      (registeredLast? registrations key).map use := by
  induction registrations using List.reverseRecOn with
  | nil => rfl
  | append_singleton earlier last ih =>
      rw [List.map_append, List.map_singleton, registeredLast?_concat, registeredLast?_concat, ih]
      split <;> rfl

end RegisteredLast

namespace Registry

variable {σ : Type}

/-- The registry after these registrations, one after another. -/
def enrolled (registrations : List (List String × Robot σ)) : Registry σ :=
  registrations.foldl (fun registry (keys, robot) => registry.register keys robot) {}

theorem get?_register (registry : Registry σ) (keys : List String) (robot : Robot σ)
    (key : String) :
    (registry.register keys robot).get? key =
      if key ∈ keys then some robot else registry.get? key := by
  induction keys generalizing registry with
  | nil => rfl
  | cons first rest ih =>
      have later : (registry.register (first :: rest) robot).get? key =
        ((registry.register [first] robot).register rest robot).get? key := rfl
      have put : (registry.register [first] robot).get? key =
        if key = first then some robot else registry.get? key := Dictionary.find?_put ..
      rw [later, ih, put]
      by_cases own : key ∈ rest <;> simp [own]

/-- Under a key is the robot that was registered last with it. -/
theorem get?_enrolled (registrations : List (List String × Robot σ)) (key : String) :
    (enrolled registrations).get? key = registeredLast? registrations key := by
  induction registrations using List.reverseRecOn with
  | nil => rfl
  | append_singleton earlier last ih =>
      obtain ⟨keys, robot⟩ := last
      rw [registeredLast?_concat, ← ih, ← get?_register]
      simp [enrolled]

theorem mem_keys_enrolled_iff {registrations : List (List String × Robot σ)} {key : String} :
    key ∈ (enrolled registrations).keys ↔ ∃ registration ∈ registrations, key ∈ registration.1 := by
  rw [← isSome_registeredLast?_iff, ← get?_enrolled]
  exact Dictionary.mem_keys_iff

/-- There are as many entries as different keys. -/
theorem size_enrolled (registrations : List (List String × Robot σ)) :
    (enrolled registrations).size = (registrations.flatMap (·.1)).toFinset.card := by
  have length : (enrolled registrations).size = (enrolled registrations).keys.length :=
    (List.length_map _).symm
  have nodup : (enrolled registrations).keys.Nodup := Dictionary.nodup_keys _
  rw [length, ← List.toFinset_card_of_nodup nodup]
  congr 1
  ext key
  rw [List.mem_toFinset, List.mem_toFinset, List.mem_flatMap]
  exact mem_keys_enrolled_iff

section Spawn

variable {registry : Registry σ} {payload : Payload} (task : String) (clock : Clock)

/-- A payload for no robot starts nothing. -/
theorem spawn_of_unknown (unknown : registry.get? payload.robot = none) (scene : Scene σ) :
    registry.spawn task clock payload scene = (false, scene) := by
  rw [spawn, run_bind_state (receive_of_unknown unknown scene)]
  rfl

/-- A payload for a robot is noted, and then the robot is run. -/
theorem spawn_of_get? {robot : Robot σ} (found : registry.get? payload.robot = some robot)
    (scene : Scene σ) :
    registry.spawn task clock payload scene =
      (true, (runTask task clock robot payload (scene.noted (.commandReceived payload))).2) := by
  rw [spawn, run_bind_state (receive_of_get? found scene)]
  rfl

/-- What the task adds when the run of a robot has ended so: nothing, or the report that it broke
off and the attempt to tell so. -/
def aftermath (task : String) (messenger : Messenger) (payload : Payload)
    (refusal : Option ReplyError) : RunEnd → List Moment
  | .finished => []
  | .broken message =>
      [.logged (.taskBroken payload (breakReason task message)),
        match refusal with
        | none => .sent (messenger.message payload ("Error running " ++ messenger.identity.name ++
            " command: " ++ "the robot crashed while handling this command"))
        | some error => .logged (.replyFailed payload payload.robot error)]

theorem runTask_of_ended {robot : Robot σ} {scene after : Scene σ} {ended : RunEnd}
    (ran : robot.run clock payload scene = (ended, after)) :
    runTask task clock robot payload scene = ((), { after with
      trace := after.trace ++ aftermath task robot.messenger payload after.refusal ended }) := by
  rw [runTask, run_bind_state ran]
  obtain ⟨stores, refusal, trace⟩ := after
  cases ended with
  | finished =>
      rw [aftermath, List.append_nil]
      rfl
  | broken message =>
      cases refusal <;> rw [aftermath, List.append_cons] <;> rfl

end Spawn

end Registry

/-- What a run of a robot does: how it ends, what it makes of the stores and of the delivery, and
what can be observed of it. -/
structure Performance (σ : Type) where
  ended : RunEnd
  stores : σ
  refusal : Option ReplyError
  moments : List Moment := []

/-- A robot of which is known what its runs do. -/
structure Performer (σ : Type) where
  name : String
  description : String
  messenger : Messenger
  perform : Clock → Payload → σ → Option ReplyError → Performance σ

/-- One run of a robot. -/
structure Performed (σ : Type) where
  performer : Performer σ
  clock : Clock
  payload : Payload

/-- The robot whose runs do this, and are written down beside the stores. -/
def Performer.robot {σ : Type} (performer : Performer σ) : Robot (σ × List (Performed σ)) where
  name := performer.name
  description := performer.description
  messenger := performer.messenger
  run clock payload scene :=
    let done := performer.perform clock payload scene.stores.1 scene.refusal
    (done.ended, {
      stores := (done.stores, scene.stores.2 ++ [⟨performer, clock, payload⟩])
      refusal := done.refusal
      trace := scene.trace ++ done.moments })

theorem Performer.run_robot {σ : Type} {performer : Performer σ} {clock : Clock}
    {payload : Payload} {done : Performance σ} (scene : Scene (σ × List (Performed σ)))
    (performed : performer.perform clock payload scene.stores.1 scene.refusal = done) :
    performer.robot.run clock payload scene = (done.ended, {
      stores := (done.stores, scene.stores.2 ++ [⟨performer, clock, payload⟩])
      refusal := done.refusal
      trace := scene.trace ++ done.moments }) := by
  rw [← performed]
  rfl

namespace Registry

variable {σ : Type} {registrations : List (List String × Performer σ)} {payload : Payload}

/-- The registry of these robots. -/
def enrolledRobots (registrations : List (List String × Performer σ)) :
    Registry (σ × List (Performed σ)) :=
  enrolled (registrations.map fun (keys, performer) => (keys, performer.robot))

theorem get?_enrolledRobots (registrations : List (List String × Performer σ)) (key : String) :
    (enrolledRobots registrations).get? key =
      (registeredLast? registrations key).map Performer.robot := by
  rw [enrolledRobots, get?_enrolled, registeredLast?_map]

/-- A payload for a key that was not registered starts nothing. -/
theorem spawn_of_unregistered (unregistered : registeredLast? registrations payload.robot = none)
    (task : String) (clock : Clock) (scene : Scene (σ × List (Performed σ))) :
    (enrolledRobots registrations).spawn task clock payload scene = (false, scene) := by
  have unknown := get?_enrolledRobots registrations payload.robot
  rw [unregistered] at unknown
  exact spawn_of_unknown task clock unknown scene

/-- The robot that was registered last is run once, between the note that it was asked and what is
added at its end. -/
theorem spawn_of_registered {performer : Performer σ}
    (last : registeredLast? registrations payload.robot = some performer) (task : String)
    (clock : Clock) (scene : Scene (σ × List (Performed σ))) :
    let done := performer.perform clock payload scene.stores.1 scene.refusal
    (enrolledRobots registrations).spawn task clock payload scene = (true, {
      stores := (done.stores, scene.stores.2 ++ [⟨performer, clock, payload⟩])
      refusal := done.refusal
      trace := scene.trace ++ [.logged (.commandReceived payload)] ++ done.moments ++
        aftermath task performer.messenger payload done.refusal done.ended }) := by
  intro done
  have found := get?_enrolledRobots registrations payload.robot
  rw [last] at found
  have ran := Performer.run_robot (scene.noted (.commandReceived payload))
    (rfl : performer.perform clock payload scene.stores.1 scene.refusal = done)
  rw [spawn_of_get? task clock found scene, runTask_of_ended task clock ran]
  rfl

/-- Nothing is started only for a key that no registration has. -/
theorem spawn_eq_false_iff (task : String) (clock : Clock)
    (scene : Scene (σ × List (Performed σ))) :
    ((enrolledRobots registrations).spawn task clock payload scene).1 = false ↔
      ∀ registration ∈ registrations, payload.robot ∉ registration.1 := by
  have unknown := not_congr (isSome_registeredLast?_iff registrations payload.robot)
  push Not at unknown
  rw [← unknown]
  cases last : registeredLast? registrations payload.robot with
  | none => simp [spawn_of_unregistered last]
  | some performer => simp [spawn_of_registered last]

end Registry

/-- A payload starts the robot that was registered last under its key, once and with the payload as
it is.  What the robot has said stays said, and when it breaks off, this is logged and told once, in
the robot's own name and in the channel of the payload; when it comes to its end, nothing is added.
A payload for a key that was never registered starts nothing.  The keys are listed once each. -/
theorem Registry.spawn_contract {σ : Type} (registrations : List (List String × Performer σ))
    (task : String) (clock : Clock) (payload : Payload)
    (scene : Scene (σ × List (Performed σ))) :
    let registry := enrolled
      (registrations.map fun (keys, performer) => (keys, performer.robot))
    let spawned := registry.spawn task clock payload scene
    (spawned.1 = false ↔ ∀ registration ∈ registrations, payload.robot ∉ registration.1) ∧
    (match registeredLast? registrations payload.robot with
    | none => spawned = (false, scene)
    | some performer =>
        let done := performer.perform clock payload scene.stores.1 scene.refusal
        spawned.1 = true ∧
        spawned.2.stores = (done.stores, scene.stores.2 ++ [⟨performer, clock, payload⟩]) ∧
        spawned.2.refusal = done.refusal ∧
        ∃ report,
          spawned.2.trace =
            scene.trace ++ [.logged (.commandReceived payload)] ++ done.moments ++ report ∧
          match done.ended, done.refusal with
          | .finished, _ => report = []
          | .broken message, none => report =
              [.logged (.taskBroken payload (breakReason task message)),
                .sent ⟨payload.teamDomain, payload.channelId, performer.messenger.identity,
                  "Error running " ++ performer.messenger.identity.name ++
                    " command: " ++ "the robot crashed while handling this command", []⟩]
          | .broken message, some error => report =
              [.logged (.taskBroken payload (breakReason task message)),
                .logged (.replyFailed payload payload.robot error)]) ∧
    -- The names and the levels of these events.
    (((Event.commandReceived payload).name, (Event.commandReceived payload).level) =
        ("ingress.slack.command_received", .info) ∧
      (∀ reason, ((Event.taskBroken payload reason).name, (Event.taskBroken payload reason).level) =
        ("robot.task.panicked", .error)) ∧
      ∀ robot error, ((Event.replyFailed payload robot error).name,
        (Event.replyFailed payload robot error).level) = ("robot.reply.failed", .warn)) ∧
    -- The keys, in the order of their bytes.
    registry.keys.Pairwise (fun a b => Text.encodeUtf8 a < Text.encodeUtf8 b) ∧
    (∀ key, key ∈ registry.keys ↔ ∃ registration ∈ registrations, key ∈ registration.1) ∧
    registry.size = registry.keys.length ∧
    registry.size = (registrations.flatMap (·.1)).toFinset.card := by
  intro registry spawned
  refine ⟨spawn_eq_false_iff task clock scene, ?ran, ⟨rfl, fun _ => rfl, fun _ _ => rfl⟩,
    Dictionary.pairwise_keys _, ?listed, (List.length_map _).symm, ?counted⟩
  case ran =>
    cases last : registeredLast? registrations payload.robot with
    | none => exact spawn_of_unregistered last task clock scene
    | some performer =>
        have started : spawned = _ := spawn_of_registered last task clock scene
        dsimp only
        generalize performer.perform clock payload scene.stores.1 scene.refusal = done
          at started ⊢
        rw [started]
        refine ⟨rfl, rfl, rfl, _, rfl, ?_⟩
        obtain ⟨ended, stores, refusal, moments⟩ := done
        cases ended <;> cases refusal <;> rfl
  case listed =>
    intro key
    rw [mem_keys_enrolled_iff]
    simp
  case counted =>
    rw [size_enrolled, List.flatMap_map]

end ChatRobots
