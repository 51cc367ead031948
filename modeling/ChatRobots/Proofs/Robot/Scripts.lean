/-
Module: ChatRobots.Proofs.Robot.Scripts
Purpose: Handlers that settle with the stores what to say before they say it.
Main exports: Work, Quiet, Reply, Messenger.tell, Messenger.Follows, Messenger.Answered,
  Router.answer, Router.answered_dispatch
-/
import ChatRobots.Proofs.Robot.Scenes
import ChatRobots.Proofs.Text.Beginnings
import ChatRobots.Robot.Router

namespace ChatRobots

/-!
A handler asks the stores and says things.  As long as it never asks after it has said something,
it falls into two parts: work on the stores alone, which ends with what there is to say or with an
error, and then saying it.  What becomes of the stores, and what is said, is then settled before
the delivery plays any role, so it is the same whether messages are delivered or refused.

Such a handler always says something: a reply has a first text.
-/

/-- Work on the stores alone. -/
abbrev Work (σ α : Type) := ExceptT RobotError (StateM σ) α

namespace Work

variable {σ α β : Type}

/-- Call a store; its failure is the failure of the work. -/
def call (act : Act σ α) : Work σ α := fun stores =>
  match act stores with
  | (.ok answer, stores) => (.ok answer, stores)
  | (.error error, stores) => (.error (.store error), stores)

/-- The arguments that a command must have. -/
def requireArgs (command : Command) (names : List String) : Work σ (List String) :=
  match command.requireArgs names with
  | .ok args => pure args
  | .error usage => throw (.missingArguments usage)

/-- The same work as part of handling a command. -/
def inScene (work : Work σ α) : Handling σ α := fun scene =>
  ((work scene.stores).1, { scene with stores := (work scene.stores).2 })

@[simp] theorem inScene_pure (answer : α) : inScene (pure answer : Work σ α) = pure answer :=
  rfl

@[simp] theorem inScene_throw (error : RobotError) :
    inScene (throw error : Work σ α) = throw error :=
  rfl

@[simp] theorem inScene_call (act : Act σ α) : inScene (call act) = callStore act := by
  funext scene
  cases called : act scene.stores with
  | mk result stores => cases result <;> simp only [inScene, call, callStore, called]

@[simp] theorem inScene_requireArgs (command : Command) (names : List String) :
    inScene (requireArgs command names : Work σ _) = ChatRobots.requireArgs command names := by
  unfold requireArgs ChatRobots.requireArgs
  cases command.requireArgs names <;> rfl

@[simp] theorem inScene_bind (work : Work σ α) (next : α → Work σ β) :
    inScene (work >>= next) = inScene work >>= fun answer => inScene (next answer) := by
  funext scene
  cases done : work scene.stores with
  | mk result stores =>
      have here : inScene work scene = (result, { scene with stores := stores }) := by
        rw [inScene, done]
      cases result with
      | ok answer => rw [run_bind_of_ok here, inScene, run_bind_of_ok done, inScene]
      | error error => rw [run_bind_of_error here, inScene, run_bind_of_error done]

/-- What has come of the work in a scene has come of it on the stores. -/
theorem eq_of_inScene {work : Work σ α} {scene : Scene σ} {result : Except RobotError α} {after : σ}
    (done : work.inScene scene = (result, { scene with stores := after })) :
    work scene.stores = (result, after) := by
  obtain ⟨same, left⟩ := Prod.mk.inj done
  exact Prod.ext same (congrArg Scene.stores left)

theorem call_of_ok {act : Act σ α} {before after : σ} {answer : α}
    (ok : act before = (.ok answer, after)) : call act before = (.ok answer, after) := by
  rw [call, ok]

theorem call_eq_ok {act : Act σ α} {before after : σ} {answer : α}
    (done : call act before = (.ok answer, after)) : act before = (.ok answer, after) := by
  unfold call at done
  split at done
  · cases done
    assumption
  · cases done

theorem requireArgs_of_ok {command : Command} {names args : List String}
    (given : command.requireArgs names = .ok args) (stores : σ) :
    requireArgs command names stores = (.ok args, stores) := by
  rw [requireArgs, given]
  rfl

theorem requireArgs_eq_ok {command : Command} {names args : List String} {before after : σ}
    (done : requireArgs command names before = (.ok args, after)) :
    command.requireArgs names = .ok args ∧ after = before := by
  unfold requireArgs at done
  cases given : command.requireArgs names with
  | ok found =>
      rw [given] at done
      cases done
      exact ⟨rfl, rfl⟩
  | error usage =>
      rw [given] at done
      cases done

theorem call_of_error {act : Act σ α} {before after : σ} {error : StoreError}
    (failed : act before = (.error error, after)) :
    call act before = (.error (.store error), after) := by
  rw [call, failed]

theorem call_eq_error {act : Act σ α} {before after : σ} {error : RobotError}
    (failed : call act before = (.error error, after)) :
    ∃ cause, error = .store cause ∧ act before = (.error cause, after) := by
  unfold call at failed
  split at failed
  · cases failed
  · cases failed
    exact ⟨_, rfl, by assumption⟩

/-- What the work comes to, if it comes to an end, is like this. -/
def Yields (holds : α → Prop) (work : Work σ α) : Prop :=
  ∀ ⦃before answer after⦄, work before = (.ok answer, after) → holds answer

theorem yields_pure {holds : α → Prop} {answer : α} (given : holds answer) :
    Yields holds (pure answer : Work σ α) := by
  rintro before found after ⟨⟩
  exact given

/-- What counts is how the work ends. -/
theorem yields_bind {holds : β → Prop} {work : Work σ α} {next : α → Work σ β}
    (ends : ∀ answer, Yields holds (next answer)) : Yields holds (work >>= next) := by
  intro before answer after done
  obtain ⟨found, between, -, ended⟩ := run_bind_eq_ok done
  exact ends found ended

end Work

/-- The handling works on the stores alone: nothing is said, and nothing is logged. -/
def Quiet {σ α : Type} (handling : Handling σ α) : Prop :=
  ∃ work : Work σ α, handling = work.inScene

section Quiet

variable {σ α β : Type}

theorem quiet_pure (answer : α) : Quiet (pure answer : Handling σ α) :=
  ⟨pure answer, (Work.inScene_pure answer).symm⟩

theorem quiet_throw (error : RobotError) : Quiet (throw error : Handling σ α) :=
  ⟨throw error, (Work.inScene_throw error).symm⟩

theorem quiet_callStore (act : Act σ α) : Quiet (callStore act) :=
  ⟨.call act, (Work.inScene_call act).symm⟩

theorem quiet_requireArgs (command : Command) (names : List String) :
    Quiet (requireArgs command names : Handling σ (List String)) :=
  ⟨.requireArgs command names, (Work.inScene_requireArgs command names).symm⟩

theorem Quiet.bind {handling : Handling σ α} {next : α → Handling σ β} (first : Quiet handling)
    (then_ : ∀ answer, Quiet (next answer)) : Quiet (handling >>= next) := by
  obtain ⟨work, rfl⟩ := first
  choose works same using then_
  refine ⟨work >>= works, ?_⟩
  rw [Work.inScene_bind, funext same]

end Quiet

theorem run_requireArgs_of_ok {σ : Type} {command : Command} {names args : List String}
    (given : command.requireArgs names = .ok args) (scene : Scene σ) :
    requireArgs command names scene = (.ok args, scene) := by
  rw [requireArgs, given]
  rfl

theorem run_requireArgs_of_error {σ : Type} {command : Command} {names : List String}
    {usage : String} (missing : command.requireArgs names = .error usage) (scene : Scene σ) :
    requireArgs command names scene = (.error (.missingArguments usage), scene) := by
  rw [requireArgs, missing]
  rfl

/-- What there is to say. -/
structure Reply where
  first : String
  rest : List String := []
deriving DecidableEq, Repr

def Reply.texts (reply : Reply) : List String :=
  reply.first :: reply.rest

section Telling

variable {σ α : Type} (messenger : Messenger) (payload : Payload)

/-- Say one text after another. -/
def Messenger.sayAll : List String → Handling σ Unit
  | [] => pure ()
  | text :: texts => do
      messenger.say payload text
      Messenger.sayAll texts

def Messenger.tell (reply : Reply) : Handling σ Unit :=
  messenger.sayAll payload reply.texts

/-- The handler does this work and then says what has come out of it. -/
def Messenger.Follows (work : Work σ Reply) (handling : Handling σ Unit) : Prop :=
  handling = work.inScene >>= messenger.tell payload

variable {messenger payload}

theorem follows_tell (reply : Reply) :
    messenger.Follows payload (pure reply) (messenger.tell payload reply : Handling σ Unit) :=
  rfl

theorem follows_say (text : String) :
    messenger.Follows payload (pure ⟨text, []⟩) (messenger.say payload text : Handling σ Unit) :=
  (bind_pure _).symm

/-- A call of a store comes before what follows it. -/
theorem follows_callStore {act : Act σ α} {next : α → Handling σ Unit} {work : α → Work σ Reply}
    (follows : ∀ answer, messenger.Follows payload (work answer) (next answer)) :
    messenger.Follows payload (Work.call act >>= work) (callStore act >>= next) := by
  have same : next = fun answer => (work answer).inScene >>= messenger.tell payload :=
    funext follows
  rw [Messenger.Follows, Work.inScene_bind, Work.inScene_call, bind_assoc, same]

theorem follows_requireArgs {command : Command} {names : List String}
    {next : List String → Handling σ Unit} {work : List String → Work σ Reply}
    (follows : ∀ args, messenger.Follows payload (work args) (next args)) :
    messenger.Follows payload (Work.requireArgs command names >>= work)
      (requireArgs command names >>= next) := by
  have same : next = fun args => (work args).inScene >>= messenger.tell payload :=
    funext follows
  rw [Messenger.Follows, Work.inScene_bind, Work.inScene_requireArgs, bind_assoc, same]

/-- A handler that settles one text, and then says it. -/
theorem follows_one {handling : Handling σ String} {work : Work σ String}
    (settled : handling = work.inScene) :
    messenger.Follows payload
      (do
        let text ← work
        pure ⟨text, []⟩)
      (handling >>= messenger.say payload) := by
  have same : (messenger.say payload : String → Handling σ Unit) =
      fun text => (pure ⟨text, []⟩ : Work σ Reply).inScene >>= messenger.tell payload :=
    funext follows_say
  rw [Messenger.Follows, Work.inScene_bind, bind_assoc, settled, same]

variable {scene : Scene σ} {texts : List String} {error : ReplyError}

/-- All that is said is delivered, as long as the delivery works. -/
theorem run_sayAll (working : scene.refusal = none) (texts : List String) :
    messenger.sayAll payload texts scene =
      (.ok (), scene.heard (texts.map (messenger.message payload))) := by
  induction texts generalizing scene with
  | nil =>
      rw [List.map_nil, Scene.heard_nil]
      rfl
  | cons text texts ih =>
      have still : (scene.heard [messenger.message payload text]).refusal = none := working
      rw [Messenger.sayAll, run_bind_of_ok (run_say working messenger payload text), ih still,
        Scene.heard_heard]
      rfl

/-- The first text that is refused is the end. -/
theorem run_tell_of_refusal (refused : scene.refusal = some error) (reply : Reply) :
    messenger.tell payload reply scene = (.error (.reply error), scene) := by
  have unsaid : messenger.say payload reply.first scene = (.error (.reply error), scene) := by
    obtain ⟨stores, refusal, trace⟩ := scene
    obtain rfl : refusal = some error := refused
    rfl
  exact run_bind_of_error unsaid

end Telling

/-- The payload was answered so, by the robot of this name: either all of it was delivered, or
nothing was and this was logged once. -/
structure Messenger.Answered {σ : Type} (messenger : Messenger) (name : String)
    (payload : Payload) (answer : Reply × σ) (before after : Scene σ) : Prop where
  stores : after.stores = answer.2
  refusal : after.refusal = before.refusal
  delivered : before.refusal = none → after.messages =
    before.messages ++ answer.1.texts.map (messenger.message payload)
  refused : ∀ error, before.refusal = some error → after.messages = before.messages ∧
    ∃ logged, after.events = before.events ++ logged ∧
      logged.filter (·.name == "robot.reply.failed") = [.replyFailed payload name error]

/-- One message was delivered if and only if its text was all there was to say. -/
theorem Messenger.Answered.one_message_iff {σ : Type} {messenger : Messenger} {name : String}
    {payload : Payload} {answer : Reply × σ} {before after : Scene σ}
    (answered : messenger.Answered name payload answer before after)
    (working : before.refusal = none) (text : String) :
    after.messages = before.messages ++ [messenger.message payload text] ↔
      answer.1.texts = [text] := by
  have injective : Function.Injective (messenger.message payload) :=
    fun _ _ same => congrArg Message.text same
  rw [answered.delivered working, List.append_cancel_left_eq]
  exact (List.map_injective_iff.2 injective).eq_iff' rfl

/-- An answer that comes after other things were logged. -/
theorem Messenger.Answered.after_logged {σ : Type} {messenger : Messenger} {name : String}
    {payload : Payload} {answer : Reply × σ} {before between after : Scene σ}
    (answered : messenger.Answered name payload answer between after) {logged : List Event}
    (refusal : between.refusal = before.refusal) (messages : between.messages = before.messages)
    (events : between.events = before.events ++ logged)
    (other : logged.filter (·.name == "robot.reply.failed") = []) :
    messenger.Answered name payload answer before after := by
  refine ⟨answered.stores, answered.refusal.trans refusal, ?_, ?_⟩
  · intro working
    rw [answered.delivered (refusal.trans working), messages]
  · intro error refused
    obtain ⟨unheard, more, wrote, once⟩ := answered.refused error (refusal.trans refused)
    refine ⟨unheard.trans messages, logged ++ more, ?_, ?_⟩
    · rw [wrote, events, List.append_assoc]
    · rw [List.filter_append, other, once, List.nil_append]

namespace Router

variable {A σ : Type} (router : Router A)

/-- The action that a command asks for. -/
def action? (command : Command) : Option A :=
  if command.isDefault then router.defaultAction
  else if command.verb = "help" then none
  else router.verbs.find? command.verb

/-- Without a default action, and with nothing under the empty verb or `help`, a command asks for
what is under its verb. -/
theorem action?_eq_find? {router : Router A} (noDefault : router.defaultAction = none)
    (noBlank : router.verbs.find? "" = none) (noHelp : router.verbs.find? "help" = none)
    (command : Command) : router.action? command = router.verbs.find? command.verb := by
  rw [action?, Command.isDefault, noDefault]
  by_cases blank : command.verb = ""
  · simp [blank, noBlank]
  · by_cases help : command.verb = "help"
    · simp [help, noHelp]
    · simp [blank, help]

/-- The answer to a command that asks for no action. -/
def guidance (command : Command) : String :=
  if command.isDefault then "You must enter a command.\n" ++ router.helpText
  else if command.verb = "help" then router.helpText
  else "Invalid command *" ++ command.verb ++ "*\n" ++ router.helpText

/-- What has become of a command that asks for no action. -/
def unanswered (command : Command) : Outcome :=
  if command.isDefault then .missingCommand
  else if command.verb = "help" then .help
  else .unknown command.verb

/-- What is told about a failure. -/
def report (error : RobotError) : Reply :=
  ⟨"Error running " ++ router.messenger.identity.name ++ " command: " ++ error.message, []⟩

theorem begins_report (error : RobotError) : Begins "Error" (router.report error).first := by
  have lead : Begins "Error" "Error running " := by decide +kernel
  exact ((lead.append _).append _).append _

/-- What is said after the work, and what has become of the stores. -/
def settle : Except RobotError Reply × σ → Reply × σ
  | (.ok reply, stores) => (reply, stores)
  | (.error error, stores) => (router.report error, stores)

@[simp] theorem settle_snd (done : Except RobotError Reply × σ) :
    (router.settle done).2 = done.2 := by
  obtain ⟨result, stores⟩ := done
  cases result <;> rfl

/-- What is said in answer to a command, and what becomes of the stores. -/
def answer (work : A → Command → Work σ Reply) (command : Command) (stores : σ) : Reply × σ :=
  match router.action? command with
  | none => (⟨router.guidance command, []⟩, stores)
  | some action => router.settle (work action command stores)

section Runs

variable {router} {handler : Handler A σ} {action : A} {payload : Payload} {command : Command}
  {scene after : Scene σ} {error : RobotError}

/-- An action that comes to its end is only logged. -/
theorem run_of_ok (ok : handler action payload command
      (scene.noted (.commandDispatched payload router.name command.verb)) = (.ok (), after)) :
    router.run handler action payload command scene = (.handled, after) := by
  have logged : logEvent (.commandDispatched payload router.name command.verb) scene =
      ((), scene.noted (.commandDispatched payload router.name command.verb)) := rfl
  have ran : (handler action payload command).run
      (scene.noted (.commandDispatched payload router.name command.verb)) = (.ok (), after) := ok
  rw [Router.run, run_bind_state logged, run_bind_state ran]
  rfl

/-- An action that fails is logged, and the reason is told. -/
theorem run_of_error (failed : handler action payload command
      (scene.noted (.commandDispatched payload router.name command.verb)) =
        (.error error, after)) :
    router.run handler action payload command scene =
      (.failed, (router.reply payload (router.report error).first
        (after.noted (.commandFailed payload router.name error))).2) := by
  have logged : logEvent (.commandDispatched payload router.name command.verb) scene =
      ((), scene.noted (.commandDispatched payload router.name command.verb)) := rfl
  have ran : (handler action payload command).run
      (scene.noted (.commandDispatched payload router.name command.verb)) =
        (.error error, after) := failed
  rw [Router.run, run_bind_state logged, run_bind_state ran]
  rfl

/-- One text is delivered, or its refusal is logged. -/
theorem answered_reply (router : Router A) (payload : Payload) (text : String) (scene : Scene σ) :
    router.messenger.Answered router.name payload (⟨text, []⟩, scene.stores) scene
      (router.reply payload text scene).2 := by
  obtain ⟨stores, refusal, trace⟩ := scene
  cases refusal with
  | none =>
      refine ⟨rfl, rfl, fun _ => ?_, fun _ refused => nomatch refused⟩
      exact Scene.messages_heard ⟨stores, none, trace⟩ [router.messenger.message payload text]
  | some cause =>
      refine ⟨rfl, rfl, (nomatch ·), ?_⟩
      intro error refused
      obtain rfl : error = cause := (Option.some.inj refused).symm
      exact ⟨Scene.messages_noted _ (.replyFailed payload router.name error), _,
        Scene.events_noted _ (.replyFailed payload router.name error), rfl⟩

/-- What failed before anything was said is answered with the reason. -/
theorem answered_run_of_error {stores : σ} (failed : handler action payload command
      (scene.noted (.commandDispatched payload router.name command.verb)) =
        (.error error,
          { scene.noted (.commandDispatched payload router.name command.verb) with
            stores := stores })) :
    router.messenger.Answered router.name payload (router.report error, stores) scene
      (router.run handler action payload command scene).2 := by
  let failing : Scene σ := { scene with
    stores := stores
    trace := scene.trace ++ [.logged (.commandDispatched payload router.name command.verb)] ++
      [.logged (.commandFailed payload router.name error)] }
  have replied := answered_reply router payload (router.report error).first failing
  have messages : failing.messages = scene.messages := by simp [failing, Scene.messages]
  have events : failing.events = scene.events ++
      [.commandDispatched payload router.name command.verb,
        .commandFailed payload router.name error] := by
    simp [failing, Scene.events]
  rw [run_of_error failed]
  exact replied.after_logged rfl messages events rfl

/-- An action of a handler that follows its work. -/
theorem answered_run {work : Work σ Reply}
    (follows : router.messenger.Follows payload work (handler action payload command)) :
    router.messenger.Answered router.name payload (router.settle (work scene.stores)) scene
      (router.run handler action payload command scene).2 := by
  generalize done : work scene.stores = worked
  obtain ⟨result, stores⟩ := worked
  let noted := scene.noted (.commandDispatched payload router.name command.verb)
  let settled : Scene σ := { noted with stores := stores }
  have worked : work.inScene noted = (result, settled) := by
    rw [Work.inScene]
    exact congrArg (fun done => (done.1, { noted with stores := done.2 })) done
  rw [Messenger.Follows] at follows
  cases result with
  | error error =>
      have failed : handler action payload command noted = (.error error, settled) := by
        rw [follows, run_bind_of_error worked]
      exact answered_run_of_error failed
  | ok reply =>
      have told : handler action payload command noted =
          router.messenger.tell payload reply settled := by
        rw [follows, run_bind_of_ok worked]
      cases delivery : scene.refusal with
      | none =>
          have working : settled.refusal = none := delivery
          rw [Messenger.tell, run_sayAll working] at told
          rw [run_of_ok told]
          refine ⟨rfl, rfl, fun _ => ?_, fun error refused => ?_⟩
          · rw [Scene.messages_heard]
            exact congrArg (· ++ _) (scene.messages_noted _)
          · rw [delivery] at refused
            cases refused
      | some cause =>
          have refused : settled.refusal = some cause := delivery
          rw [run_tell_of_refusal refused] at told
          have answered := answered_run_of_error told
          refine ⟨answered.stores, answered.refusal, fun working => ?_, answered.refused⟩
          rw [delivery] at working
          cases working

/-- A command that asks for an action comes to what the action comes to. -/
theorem dispatch_of_action? {raw : String} (asked : router.action? (.parse raw) = some action) :
    router.dispatch handler payload raw scene =
      (if (Command.parse raw).isDefault then .byDefault
        else (router.run handler action payload (.parse raw) scene).1,
      (router.run handler action payload (.parse raw) scene).2) := by
  unfold action? at asked
  unfold dispatch
  by_cases blank : (Command.parse raw).isDefault = true
  · simp only [if_pos blank] at asked ⊢
    rw [asked]
    rfl
  · simp only [if_neg blank] at asked ⊢
    by_cases help : (Command.parse raw).verb = "help"
    · rw [if_pos help] at asked
      cases asked
    · simp only [if_neg help] at asked ⊢
      rw [asked]
      rfl

/-- A command that asks for no action is answered with the list of the verbs. -/
theorem dispatch_of_no_action {raw : String} (none_asked : router.action? (.parse raw) = none) :
    router.dispatch handler payload raw scene =
      (unanswered (.parse raw),
        (router.reply payload (router.guidance (.parse raw)) scene).2) := by
  unfold action? at none_asked
  unfold dispatch guidance unanswered
  by_cases blank : (Command.parse raw).isDefault = true
  · simp only [if_pos blank] at none_asked ⊢
    rw [none_asked]
    rfl
  · simp only [if_neg blank] at none_asked ⊢
    by_cases help : (Command.parse raw).verb = "help"
    · simp only [if_pos help]
      rfl
    · simp only [if_neg help] at none_asked ⊢
      rw [none_asked]
      rfl

/-- Every command is answered, if the handler follows its work. -/
theorem answered_dispatch (router : Router A) {work : A → Command → Work σ Reply}
    (follows : ∀ action command,
      router.messenger.Follows payload (work action command) (handler action payload command))
    (raw : String) (scene : Scene σ) :
    router.messenger.Answered router.name payload (router.answer work (.parse raw) scene.stores)
      scene (router.dispatch handler payload raw scene).2 := by
  unfold answer
  cases asked : router.action? (.parse raw) with
  | none =>
      rw [dispatch_of_no_action asked]
      exact answered_reply router payload _ scene
  | some action =>
      rw [dispatch_of_action? asked]
      exact answered_run (follows action (.parse raw))

/-- An action that settles one text and then says it: the text is said, or the reason why there is
none. -/
theorem answered_dispatch_of_quiet {raw : String} {text : Handling σ String} (quiet : Quiet text)
    (spoken : handler action payload (.parse raw) = text >>= router.messenger.say payload)
    (asked : router.action? (.parse raw) = some action) {result : Except RobotError String}
    {stores : σ} (settled : text scene = (result, { scene with stores := stores })) :
    router.messenger.Answered router.name payload
      (router.settle (result.map fun text => ⟨text, []⟩, stores)) scene
      (router.dispatch handler payload raw scene).2 := by
  obtain ⟨work, same⟩ := quiet
  have follows : router.messenger.Follows payload
      (do
        let text ← work
        pure ⟨text, []⟩)
      (handler action payload (.parse raw)) := by
    rw [spoken]
    exact follows_one same
  rw [same] at settled
  have done : (do
      let text ← work
      pure ⟨text, []⟩ : Work σ Reply) scene.stores =
        (result.map fun text => ⟨text, []⟩, stores) := by
    have worked := Work.eq_of_inScene settled
    cases result with
    | ok text => exact run_bind_of_ok worked
    | error error => exact run_bind_of_error worked
  rw [dispatch_of_action? asked, ← done]
  exact answered_run follows

end Runs

end Router

end ChatRobots
