/-
Module: ChatRobots.Proofs.Robot.CorrelationIds
Purpose: What the robots say and write does not depend on the correlation id of a request.
Main exports: Payload.under, Quiet.twins, Messenger.Follows.twins, twins_crew, twins_runTask
-/
import ChatRobots.Proofs.Robot.CrewAnswers
import ChatRobots.Proofs.Robot.Twins

namespace ChatRobots

/-!
The correlation id of a request goes into the log and nowhere else.  So a request that comes again
under another id is handled by the robots as a twin of the first one: from the same stores it gets
the same replies and leaves the same stores.
-/

/-- The same request under another correlation id. -/
def Payload.under (payload : Payload) (correlationId : String) : Payload :=
  { payload with correlationId := correlationId }

@[simp] theorem Payload.robot_under (payload : Payload) (correlationId : String) :
    (payload.under correlationId).robot = payload.robot :=
  rfl

theorem Payload.samePlace_under (payload : Payload) (correlationId : String) :
    payload.SamePlace (payload.under correlationId) :=
  ⟨rfl, rfl⟩

section Telling

variable {σ α : Type} {payload payload' : Payload} {messenger : Messenger}

/-- What works on the stores alone does the same in scenes with the same stores. -/
theorem Quiet.twins {handling : Handling σ α} (quiet : Quiet handling) :
    Twins Eq handling.run handling.run := by
  obtain ⟨work, rfl⟩ := quiet
  rintro scene scene' ⟨same, refusal, messages⟩
  have ran : work.inScene.run scene =
      ((work scene.stores).1, { scene with stores := (work scene.stores).2 }) := rfl
  have ran' : work.inScene.run scene' =
      ((work scene'.stores).1, { scene' with stores := (work scene'.stores).2 }) := rfl
  rw [ran, ran', same]
  exact ⟨rfl, rfl, refusal, messages⟩

theorem Messenger.twins_sayAll (same : payload.SamePlace payload') (messenger : Messenger)
    (texts : List String) :
    Twins Eq (messenger.sayAll payload texts : Handling σ Unit).run
      (messenger.sayAll payload' texts).run := by
  induction texts with
  | nil => exact twins_pure _
  | cons text texts ih => exact (messenger.twins_say same text).bind_handling fun _ => ih

/-- Two handlings that follow the same work are twins. -/
theorem Messenger.Follows.twins {work : Work σ Reply} {handling handling' : Handling σ Unit}
    (follows : messenger.Follows payload work handling)
    (follows' : messenger.Follows payload' work handling')
    (same : payload.SamePlace payload') : Twins Eq handling.run handling'.run := by
  have quiet : Quiet work.inScene := ⟨work, rfl⟩
  rw [follows, follows']
  exact quiet.twins.bind_handling fun reply => messenger.twins_sayAll same reply.texts

end Telling

/-- A robot that breaks off does so under either id, and tells the same. -/
theorem twins_runTask {σ : Type} {robot : Robot σ} {clock : Clock} {payload payload' : Payload}
    (twins : Twins Eq (robot.run clock payload) (robot.run clock payload'))
    (same : payload.SamePlace payload') (label : String) :
    Twins Eq (Registry.runTask label clock robot payload)
      (Registry.runTask label clock robot payload') := by
  apply twins.bind
  intro ending
  cases ending with
  | finished => exact twins_pure ()
  | broken message =>
      apply (twins_logEvent _ _).bind
      intro _
      apply (robot.messenger.twins_send same _).bind
      intro result
      cases result with
      | ok _ => exact twins_pure ()
      | error error => exact twins_logEvent _ _

section Crew

variable {σ : Type} {stores : Stores σ} {teamDomain : Option String} {robot : Robot σ}
  {payload : Payload} {key : String}

/-- Each of the three robots handles the request under either id alike. -/
theorem twins_crew (found : (crew stores teamDomain).get? key = some robot) (clock : Clock)
    (payload : Payload) (id : String) :
    Twins Eq (robot.run clock payload) (robot.run clock (payload.under id)) := by
  have place := payload.samePlace_under id
  rcases crew_get?_eq_some found with ⟨-, rfl⟩ | ⟨-, rfl⟩ | ⟨-, rfl⟩
  · apply (Router.twins_dispatch place rfl fun action _ => ?_).bind fun _ => twins_pure _
    exact (VacationRobot.quiet_reply stores.vacations clock.today action payload
      _).twins.bind_handling fun text => (VacationRobot.messenger teamDomain).twins_say place text
  · apply (Router.twins_dispatch place rfl fun action _ => ?_).bind fun _ => twins_pure _
    exact (SettingsRobot.quiet_reply stores.settings action payload _).twins.bind_handling
      fun text => (SettingsRobot.messenger teamDomain).twins_say place text
  · apply (Router.twins_dispatch place rfl fun action _ => ?_).bind fun _ => twins_pure _
    have follows (payload : Payload) : (PokerRobot.messenger teamDomain).Follows payload
        (PokerRobot.work stores.poker clock.now payload action (.parse payload.text))
        (PokerRobot.handle stores.poker clock (PokerRobot.messenger teamDomain) action payload
          (.parse payload.text)) := PokerRobot.follows_handle action
    exact (follows payload).twins (follows (payload.under id)) place

end Crew

end ChatRobots
