/-
Module: ChatRobots.Proofs.Robot.Twins
Purpose: Two runs that cannot be told apart by what is said in them.
Main exports: ActTwins, Scene.LooksLike, Twins, Twins.bind, twins_ask, Router.twins_dispatch
-/
import ChatRobots.Proofs.Action
import ChatRobots.Proofs.Robot.Scripts

namespace ChatRobots

/-!
Two runs over different stores look the same when the same messages are delivered in them.  What
the stores hold may differ, as long as it stays within a relation that every call of a store
respects: related stores give answers that look the same to whoever uses them, and are related
again afterwards.  Events are not compared, because they hold the commands as they were given.
-/

/-- Calls that, on related states, give answers with one view and leave related states. -/
def ActTwins {σ α γ : Type} (R : σ → σ → Prop) (view : α → γ) (first second : Act σ α) : Prop :=
  ∀ ⦃s s'⦄, R s s' → (first s).1.map view = (second s').1.map view ∧ R (first s).2 (second s').2

/-- The same calls on a part of a larger state. -/
theorem ActTwins.within {σ τ α γ : Type} {R : σ → σ → Prop} {view : α → γ}
    {first second : Act σ α} (twins : ActTwins R view first second) {part : τ → σ}
    {put : σ → τ → τ} (part_put : ∀ s whole, part (put s whole) = s) :
    ActTwins (fun whole whole' => R (part whole) (part whole')) view (first.within part put)
      (second.within part put) := by
  intro whole whole' related
  obtain ⟨same, still⟩ := twins related
  refine ⟨same, ?_⟩
  have parts : R (part (put (first (part whole)).2 whole))
      (part (put (second (part whole')).2 whole')) := by
    rw [part_put, part_put]
    exact still
  exact parts

/-- Scenes that look the same from outside, over related stores. -/
structure Scene.LooksLike {σ : Type} (R : σ → σ → Prop) (scene scene' : Scene σ) : Prop where
  stores : R scene.stores scene'.stores
  refusal : scene.refusal = scene'.refusal
  messages : scene.messages = scene'.messages

/-- From scenes that look the same, both come to the same and leave scenes that look the same. -/
def Twins {σ α : Type} (R : σ → σ → Prop) (first second : Chat σ α) : Prop :=
  ∀ ⦃scene scene'⦄, scene.LooksLike R scene' →
    (first scene).1 = (second scene').1 ∧ (first scene).2.LooksLike R (second scene').2

section Twins

variable {σ α β : Type} {R : σ → σ → Prop}

theorem twins_pure (answer : α) : Twins R (pure answer) (pure answer) :=
  fun _ _ looks => ⟨rfl, looks⟩

theorem Twins.bind {first second : Chat σ α} {next next' : α → Chat σ β}
    (twins : Twins R first second) (rest : ∀ answer, Twins R (next answer) (next' answer)) :
    Twins R (first >>= next) (second >>= next') := by
  intro scene scene' looks
  obtain ⟨same, still⟩ := twins looks
  have later := rest (first scene).1 still
  have opened : (first >>= next) scene = next (first scene).1 (first scene).2 := rfl
  have opened' : (second >>= next') scene' = next' (first scene).1 (second scene').2 :=
    congrArg (fun answer => next' answer (second scene').2) same.symm
  rw [opened, opened']
  exact later

/-- Handling goes on after the first step, or both have failed there alike. -/
theorem Twins.bind_handling {first second : Handling σ α} {next next' : α → Handling σ β}
    (twins : Twins R first.run second.run)
    (rest : ∀ answer, Twins R (next answer).run (next' answer).run) :
    Twins R (first >>= next).run (second >>= next').run := by
  have opened : (first >>= next).run = first.run >>= ExceptT.bindCont next := rfl
  have opened' : (second >>= next').run = second.run >>= ExceptT.bindCont next' := rfl
  rw [opened, opened']
  apply twins.bind
  intro result
  cases result with
  | ok answer => exact rest answer
  | error error => exact fun _ _ looks => ⟨rfl, looks⟩

theorem twins_logEvent (event event' : Event) : Twins R (logEvent event) (logEvent event') := by
  intro scene scene' looks
  refine ⟨rfl, looks.stores, looks.refusal, ?_⟩
  exact (scene.messages_noted event).trans
    (looks.messages.trans (scene'.messages_noted event').symm)

theorem twins_deliver (message : Message) :
    Twins R (deliver message : Chat σ _) (deliver message) := by
  rintro ⟨stores, refusal, trace⟩ ⟨stores', _, trace'⟩ ⟨related, rfl, messages⟩
  cases refusal with
  | some error => exact ⟨rfl, related, rfl, messages⟩
  | none =>
      refine ⟨rfl, related, rfl, ?_⟩
      have first := Scene.messages_heard ⟨stores, none, trace⟩ [message]
      have second := Scene.messages_heard ⟨stores', none, trace'⟩ [message]
      exact first.trans ((congrArg (· ++ [message]) messages).trans second.symm)

/-- A store is asked, and only the view of its answer is used. -/
theorem twins_ask {γ : Type} {view : α → γ} {first second : Act σ α}
    (twins : ActTwins R view first second) {use use' : α → β}
    (uses : ∀ a b, view a = view b → use a = use' b) :
    Twins R (callStore first >>= fun a => pure (use a)).run
      (callStore second >>= fun a => pure (use' a)).run := by
  intro scene scene' looks
  obtain ⟨same, still⟩ := twins looks.stores
  have kept : ∀ stores stores', R stores stores' →
      ({ scene with stores := stores } : Scene σ).LooksLike R { scene' with stores := stores' } :=
    fun _ _ related => ⟨related, looks.refusal, looks.messages⟩
  cases asked : first scene.stores with
  | mk answer stores =>
      cases asked' : second scene'.stores with
      | mk answer' stores' =>
          rw [asked, asked'] at same still
          cases answer with
          | error error =>
              cases answer' with
              | ok b => cases same
              | error error' =>
                  cases same
                  rw [ExceptT.run, ExceptT.run, run_bind_of_error (run_callStore_of_error asked),
                    run_bind_of_error (run_callStore_of_error asked')]
                  exact ⟨rfl, kept _ _ still⟩
          | ok a =>
              cases answer' with
              | error error' => cases same
              | ok b =>
                  have views : view a = view b := Except.ok.inj same
                  rw [ExceptT.run, ExceptT.run, run_bind_of_ok (run_callStore_of_ok asked),
                    run_bind_of_ok (run_callStore_of_ok asked'), uses a b views]
                  exact ⟨rfl, kept _ _ still⟩

end Twins

/-- Two payloads that are answered in the same place. -/
structure Payload.SamePlace (payload payload' : Payload) : Prop where
  teamDomain : payload.teamDomain = payload'.teamDomain
  channelId : payload.channelId = payload'.channelId

section Routing

variable {A σ : Type} {R : σ → σ → Prop} {payload payload' : Payload}

theorem Messenger.twins_send (same : payload.SamePlace payload') (messenger : Messenger)
    (text : String) :
    Twins R (messenger.send payload text : Chat σ _) (messenger.send payload' text) := by
  rw [Messenger.send, Messenger.send, Messenger.sendWithAttachments,
    Messenger.sendWithAttachments, same.teamDomain, same.channelId]
  exact twins_deliver _

theorem Messenger.twins_say (same : payload.SamePlace payload') (messenger : Messenger)
    (text : String) :
    Twins R (messenger.say payload text : Handling σ Unit).run
      (messenger.say payload' text).run := by
  intro scene scene' looks
  obtain ⟨result, still⟩ := messenger.twins_send same text looks
  exact ⟨congrArg (Except.mapError RobotError.reply) result, still⟩

namespace Router

variable {router : Router A}

theorem twins_noteReply (result : Except ReplyError Unit) :
    Twins R (router.noteReply payload result : Chat σ Unit)
      (router.noteReply payload' result) := by
  cases result with
  | ok _ => exact twins_pure ()
  | error error => exact twins_logEvent _ _

theorem twins_reply (same : payload.SamePlace payload') (text : String) :
    Twins R (router.reply payload text : Chat σ Unit) (router.reply payload' text) :=
  (router.messenger.twins_send same text).bind fun _ => twins_noteReply _

variable {handler : Handler A σ} {command command' : Command}

/-- Handlings that look the same are reported alike. -/
theorem twins_run (same : payload.SamePlace payload') {action : A}
    (twins : Twins R (handler action payload command).run
      (handler action payload' command').run) :
    Twins R (router.run handler action payload command)
      (router.run handler action payload' command') := by
  apply (twins_logEvent _ _).bind
  intro _
  apply twins.bind
  intro result
  cases result with
  | ok _ => exact twins_pure _
  | error error =>
      apply (twins_logEvent _ _).bind
      intro _
      apply (router.messenger.twins_send same _).bind
      intro _
      exact (twins_noteReply _).bind fun _ => twins_pure _

/-- Commands with one verb are dispatched alike, if their handlings look the same. -/
theorem twins_dispatch (same : payload.SamePlace payload') {raw raw' : String}
    (verb : (Command.parse raw).verb = (Command.parse raw').verb)
    (twins : ∀ action, router.action? (.parse raw) = some action →
      Twins R (handler action payload (.parse raw)).run
        (handler action payload' (.parse raw')).run) :
    Twins R (router.dispatch handler payload raw) (router.dispatch handler payload' raw') := by
  have isDefault : (Command.parse raw).isDefault = (Command.parse raw').isDefault := by
    rw [Command.isDefault, Command.isDefault, verb]
  have asks : router.action? (.parse raw) = router.action? (.parse raw') := by
    rw [action?, action?, isDefault, verb]
  intro scene scene' looks
  cases asked : router.action? (.parse raw) with
  | none =>
      have guides : router.guidance (.parse raw) = router.guidance (.parse raw') := by
        rw [guidance, guidance, isDefault, verb]
      have outcomes : unanswered (.parse raw) = unanswered (.parse raw') := by
        rw [unanswered, unanswered, isDefault, verb]
      have replies : Twins R (router.reply payload (router.guidance (.parse raw)))
          (router.reply payload' (router.guidance (.parse raw))) := twins_reply same _
      obtain ⟨-, still⟩ := replies looks
      rw [dispatch_of_no_action asked, dispatch_of_no_action (asks.symm.trans asked), ← guides,
        ← outcomes]
      exact ⟨rfl, still⟩
  | some action =>
      obtain ⟨result, still⟩ := twins_run same (twins action asked) looks
      rw [dispatch_of_action? asked, dispatch_of_action? (asks.symm.trans asked), ← isDefault,
        ← result]
      exact ⟨rfl, still⟩

end Router

end Routing

end ChatRobots
