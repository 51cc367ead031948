/-
Module: ChatRobots.Proofs.Robot.CrewAnswers
Purpose: Every payload is answered once, whatever the state of the stores.
Main exports: PokerRobot.Casts, PokerRobot.Reveals, Messenger.Answered.spawned, crew_answers_once
-/
import ChatRobots.Proofs.Robot.PokerWork
import ChatRobots.Proofs.Robot.Supervision
import ChatRobots.Robot.Crew

namespace ChatRobots

open Poker

/-!
The three robots settle with their stores what to say before they say it, and what they say is one
text.  The one exception is a vote with which everyone on the roster has voted: its receipt is
followed by an announcement and by the votes.  An error of a store is a text like any other, so
nothing needs to be known of the stores: they may fail at every call, or hold anything.

When the delivery refuses, the first text that is tried is the last one; the failed action tries
once more to tell the reason, and it is this attempt that is logged as a reply that failed.
-/

/-- The work comes to one text, if it comes to an end. -/
def Terse {σ : Type} (work : Work σ Reply) : Prop :=
  ∀ stores reply after, work stores = (.ok reply, after) → reply.rest = []

section Terse

variable {σ α : Type}

theorem terse_pure (text : String) : Terse (pure ⟨text, []⟩ : Work σ Reply) :=
  Work.yields_pure rfl

theorem terse_bind {work : Work σ α} {next : α → Work σ Reply}
    (ends : ∀ answer, Terse (next answer)) : Terse (work >>= next) :=
  Work.yields_bind ends

/-- A failure is told in one text as well. -/
theorem rest_settle {A : Type} (router : Router A) {work : Work σ Reply} (terse : Terse work)
    (stores : σ) : (router.settle (work stores)).1.rest = [] := by
  cases worked : work stores with
  | mk result after =>
      cases result with
      | ok reply => exact terse stores reply after worked
      | error error => rfl

end Terse

namespace PokerRobot

section Answers

variable {σ : Type} (store : Backend σ) (clock : Clock) (payload : Payload)

/-- A command casts a vote on the current story and gets this receipt for it. -/
inductive Casts (command : Command) (before : σ) : Story → VoteReceipt → σ → Prop where
  | cast {session : Session} {story : Story} {asked pending after : σ} {args : List String}
      {receipt : VoteReceipt}
      (current : Table.currentSession store payload.channelName before =
        (.ok (some session), asked))
      (voted : Table.currentStory store session asked = (.ok (some story), pending))
      (given : command.requireArgs ["vote"] = .ok args)
      (cast : Table.castVote store clock.now session story payload.userName (args.headD "")
        pending = (.ok receipt, after)) :
      Casts command before story receipt after

/-- The payload is a vote with which everyone on the roster has voted, and these are the votes on
the story that it was cast on. -/
def Reveals (before : σ) (story : Story) (votes : List Vote) : Prop :=
  let command := Command.parse payload.text
  (command.verb = "vote" ∨ command.verb = "v") ∧
    ∃ vote after, Casts store clock payload command before story ⟨vote, .complete votes⟩ after

theorem terse_withSession {use : Session → Work σ Reply} (uses : ∀ session, Terse (use session)) :
    Terse (withSession store payload use) :=
  yields_withSession rfl uses

theorem terse_withStory {use : Session → Story → Work σ Reply}
    (uses : ∀ session story, Terse (use session story)) :
    Terse (withStory store payload use) :=
  yields_withStory rfl rfl uses

/-- Every action but the vote is answered with one text. -/
theorem terse_work {action : PokerAction} (other : action ≠ .vote) (command : Command) :
    Terse (work store clock.now payload action command) := by
  cases action with
  | status => exact terse_bind fun _ => terse_pure _
  | startSession =>
      unfold work
      by_cases untitled : command.strFrom 0 = ""
      · simp only [if_pos untitled]
        exact terse_pure _
      · simp only [if_neg untitled]
        exact terse_bind fun _ => terse_pure _
  | startStory =>
      apply terse_withSession
      intro session
      by_cases untitled : command.strFrom 0 = ""
      · simp only [if_pos untitled]
        exact terse_pure _
      · simp only [if_neg untitled]
        exact terse_bind fun _ => terse_pure _
  | vote => exact absurd rfl other
  | reveal => exact terse_withStory store payload fun _ _ => terse_bind fun _ => terse_pure _
  | estimate =>
      apply terse_withStory
      intro _ story
      exact terse_bind fun _ => terse_bind fun _ => terse_pure _
  | finish =>
      apply terse_withSession
      intro session
      exact terse_bind fun _ => terse_bind fun _ => terse_pure _

/-- The verbs of a vote. -/
theorem action?_eq_vote_iff (messenger : Messenger) (command : Command) :
    (router messenger).action? command = some .vote ↔
      command.verb = "vote" ∨ command.verb = "v" := by
  rw [action?_eq_some_iff, PokerAction.verbs, List.mem_cons, List.mem_singleton]

variable {store clock payload} {command : Command} {before after : σ}

/-- A vote that is cast is confirmed, and then what its receipt says is announced. -/
theorem Casts.work_eq {story : Story} {receipt : VoteReceipt}
    (casts : Casts store clock payload command before story receipt after) :
    work store clock.now payload .vote command before =
      (.ok ⟨"Vote cast for *" ++ payload.userName ++ "*", announcement story receipt.roster⟩,
        after) := by
  obtain ⟨current, voted, given, cast⟩ := casts
  refine (run_bind_of_ok (Work.call_of_ok current)).trans ?_
  refine (run_bind_of_ok (Work.call_of_ok voted)).trans ?_
  refine (run_bind_of_ok (Work.requireArgs_of_ok given _)).trans ?_
  exact run_bind_of_ok (Work.call_of_ok cast)

/-- A vote that has come to a reply was cast, or the reply is one text of guidance. -/
theorem casts_of_work_eq_ok {reply : Reply}
    (done : work store clock.now payload .vote command before = (.ok reply, after)) :
    reply.rest = [] ∨ ∃ story receipt,
      Casts store clock payload command before story receipt after ∧ reply =
        ⟨"Vote cast for *" ++ payload.userName ++ "*", announcement story receipt.roster⟩ := by
  rcases withStory_eq_ok done with
    ⟨_, rfl⟩ | ⟨_, _, _, _, rfl⟩ | ⟨session, story, asked, pending, current, voted, done⟩
  · exact .inl rfl
  · exact .inl rfl
  · obtain ⟨args, between, required, voting⟩ := run_bind_eq_ok done
    obtain ⟨given, rfl⟩ := Work.requireArgs_eq_ok required
    obtain ⟨receipt, later, cast, told⟩ := run_bind_eq_ok voting
    cases told
    exact .inr ⟨story, receipt, .cast current voted given (Work.call_eq_ok cast), rfl⟩

/-- A payload that reveals votes is answered with three texts. -/
theorem Reveals.answerBy_eq {story : Story} {votes : List Vote}
    (reveals : Reveals store clock payload before story votes) (teamDomain : Option String) :
    (answerBy store clock payload teamDomain before).1 =
      ⟨"Vote cast for *" ++ payload.userName ++ "*",
        ["Everyone voted, revealing votes.", revealListing story votes]⟩ := by
  obtain ⟨verb, vote, after, casts⟩ := reveals
  have asked := (action?_eq_vote_iff (messenger teamDomain) _).2 verb
  simp only [answerBy, Router.answer, asked, casts.work_eq]
  rfl

/-- Every other payload is answered with one text. -/
theorem rest_answerBy (teamDomain : Option String)
    (hidden : ∀ story votes, ¬ Reveals store clock payload before story votes) :
    (answerBy store clock payload teamDomain before).1.rest = [] := by
  cases asked : (router (messenger teamDomain)).action? (.parse payload.text) with
  | none =>
      rw [answerBy, Router.answer, asked]
  | some action =>
      rw [answerBy, Router.answer, asked]
      dsimp only
      by_cases voting : action = .vote
      · subst voting
        have verb := (action?_eq_vote_iff (messenger teamDomain) _).1 asked
        generalize worked : work store clock.now payload .vote _ before = ended
        obtain ⟨result, after⟩ := ended
        cases result with
        | error error => rfl
        | ok reply =>
            rcases casts_of_work_eq_ok worked with one | ⟨story, ⟨vote, roster⟩, casts, rfl⟩
            · exact one
            · cases roster with
              | untracked => rfl
              | waiting outstanding => rfl
              | complete votes => exact absurd ⟨verb, vote, after, casts⟩ (hidden story votes)
      · exact rest_settle _ (terse_work store clock payload voting _) before

end Answers

end PokerRobot

/-- A robot that says one text, settled with the stores before, answers with one text. -/
theorem Router.answered_of_quiet {A σ : Type} (router : Router A) {payload : Payload}
    {handler : Router.Handler A σ} {text : A → Command → Handling σ String}
    (quiet : ∀ action command, Quiet (text action command))
    (spoken : ∀ action command,
      handler action payload command = text action command >>= router.messenger.say payload)
    (raw : String) (scene : Scene σ) :
    ∃ answer : Reply × σ, answer.1.rest = [] ∧
      router.messenger.Answered router.name payload answer scene
        (router.dispatch handler payload raw scene).2 := by
  choose work settled using quiet
  have follows : ∀ action command, router.messenger.Follows payload
      (do
        let text ← work action command
        pure ⟨text, []⟩) (handler action payload command) := by
    intro action command
    rw [spoken]
    exact follows_one (settled action command)
  refine ⟨_, ?_, router.answered_dispatch follows raw scene⟩
  unfold Router.answer
  split
  · rfl
  · exact rest_settle router (terse_bind fun _ => terse_pure _) _

namespace SettingsRobot

theorem quiet_reply {σ : Type} (store : Settings.Backend σ) (action : SettingsAction)
    (payload : Payload) (command : Command) : Quiet (reply store action payload command) := by
  cases action with
  | list => exact (quiet_callStore _).bind fun _ => quiet_pure _
  | set =>
      unfold reply
      dsimp only
      cases Settings.parseAssignment? command.rawArgs with
      | none => exact quiet_pure _
      | some assignment => exact (quiet_callStore _).bind fun _ => quiet_pure _
  | remove =>
      unfold reply
      dsimp only
      split
      · exact quiet_pure _
      · apply (quiet_callStore _).bind
        intro removed
        split <;> exact quiet_pure _

/-- Every payload is answered with one text. -/
theorem answered_run_robot {σ : Type} (store : Settings.Backend σ) (clock : Clock)
    (payload : Payload) (teamDomain : Option String) (scene : Scene σ) :
    ∃ answer : Reply × σ, answer.1.rest = [] ∧
      (messenger teamDomain).Answered "store" payload answer scene
        ((robot store teamDomain).run clock payload scene).2 := by
  have spoken : ∀ action command, handle store (messenger teamDomain) action payload command =
      reply store action payload command >>= (messenger teamDomain).say payload :=
    fun _ _ => rfl
  exact (router (messenger teamDomain)).answered_of_quiet
    (fun action command => quiet_reply store action payload command) spoken payload.text scene

end SettingsRobot

namespace VacationRobot

theorem quiet_readDay {σ : Type} (raw : String) : Quiet (readDay raw : Handling σ Date) := by
  unfold readDay
  split
  · exact quiet_pure _
  · exact quiet_throw _

theorem quiet_reply {σ : Type} (store : Vacations.Backend σ) (today : Date)
    (action : VacationAction) (payload : Payload) (command : Command) :
    Quiet (reply store today action payload command) := by
  cases action with
  | set =>
      apply (quiet_requireArgs _ _).bind
      intro dates
      apply (quiet_readDay _).bind
      intro startDate
      apply (quiet_readDay _).bind
      intro endDate
      split
      · exact (quiet_callStore _).bind fun _ => quiet_pure _
      · exact quiet_pure _
  | list => exact (quiet_callStore _).bind fun _ => quiet_pure _
  | whoIsOut => exact (quiet_callStore _).bind fun _ => quiet_pure _

/-- Every payload is answered with one text. -/
theorem answered_run_robot {σ : Type} (store : Vacations.Backend σ) (clock : Clock)
    (payload : Payload) (teamDomain : Option String) (scene : Scene σ) :
    ∃ answer : Reply × σ, answer.1.rest = [] ∧
      (messenger teamDomain).Answered "vacation" payload answer scene
        ((robot store teamDomain).run clock payload scene).2 := by
  have spoken : ∀ action command,
      handle store clock.today (messenger teamDomain) action payload command =
        reply store clock.today action payload command >>= (messenger teamDomain).say payload :=
    fun _ _ => rfl
  exact (router (messenger teamDomain)).answered_of_quiet
    (fun action command => quiet_reply store clock.today action payload command) spoken
    payload.text scene

end VacationRobot

section Crew

variable {σ : Type} {registry : Registry σ} {robot : Robot σ} {payload : Payload}
  {scene : Scene σ} {clock : Clock}

/-- A robot that comes to its end is started once, and this is logged. -/
theorem Registry.spawn_of_finished (found : registry.get? payload.robot = some robot)
    (task : String) (finished :
      (robot.run clock payload (scene.noted (.commandReceived payload))).1 = .finished) :
    (registry.spawn task clock payload scene).2 =
      (robot.run clock payload (scene.noted (.commandReceived payload))).2 := by
  generalize ran : robot.run clock payload (scene.noted (.commandReceived payload)) = ended
    at finished ⊢
  obtain ⟨result, after⟩ := ended
  obtain rfl : result = .finished := finished
  rw [spawn_of_get? task clock found, runTask_of_ended task clock ran, aftermath, List.append_nil]

/-- What a robot answers is what comes of starting it. -/
theorem Messenger.Answered.spawned {messenger : Messenger} {name : String} {answer : Reply × σ}
    {task : String}
    (answered : messenger.Answered name payload answer (scene.noted (.commandReceived payload))
      (robot.run clock payload (scene.noted (.commandReceived payload))).2)
    (found : registry.get? payload.robot = some robot) (finished :
      (robot.run clock payload (scene.noted (.commandReceived payload))).1 = .finished) :
    messenger.Answered name payload answer scene
      (registry.spawn task clock payload scene).2 := by
  rw [Registry.spawn_of_finished found task finished]
  exact answered.after_logged rfl (Scene.messages_noted _ _) (Scene.events_noted _ _) rfl

variable {stores : Stores σ} {teamDomain : Option String}

/-- The crew are three robots. -/
theorem crew_get?_eq_some {key : String} (found : (crew stores teamDomain).get? key = some robot) :
    key = "vacation" ∧ robot = VacationRobot.robot stores.vacations teamDomain ∨
      key = "store" ∧ robot = SettingsRobot.robot stores.settings teamDomain ∨
        key = "poker" ∧ robot = PokerRobot.robot stores.poker teamDomain := by
  simp only [crew, Registry.register, Registry.get?, List.foldl_cons, List.foldl_nil,
    Dictionary.find?_put_eq_some_iff, Dictionary.find?_empty, reduceCtorEq, and_false,
    or_false] at found
  rcases found with ⟨key, same⟩ | ⟨_, ⟨key, same⟩ | ⟨_, key, same⟩⟩
  · exact .inl ⟨key, same.symm⟩
  · exact .inr (.inl ⟨key, same.symm⟩)
  · exact .inr (.inr ⟨key, same.symm⟩)

/-- Every payload for one of the three robots is answered, in one text unless it reveals votes. -/
theorem answered_crew (found : (crew stores teamDomain).get? payload.robot = some robot)
    (task : String) (clock : Clock) (scene : Scene σ) :
    ∃ answer : Reply × σ,
      robot.messenger.Answered payload.robot payload answer scene
          ((crew stores teamDomain).spawn task clock payload scene).2 ∧
        (∀ story votes, payload.robot = "poker" →
          PokerRobot.Reveals stores.poker clock payload scene.stores story votes →
          answer.1.texts = ["Vote cast for *" ++ payload.userName ++ "*",
            "Everyone voted, revealing votes.", PokerRobot.revealListing story votes]) ∧
        ((∀ story votes, payload.robot = "poker" →
          ¬ PokerRobot.Reveals stores.poker clock payload scene.stores story votes) →
          answer.1.rest = []) := by
  have received : (scene.noted (.commandReceived payload)).stores = scene.stores := rfl
  rcases crew_get?_eq_some found with ⟨key, rfl⟩ | ⟨key, rfl⟩ | ⟨key, rfl⟩
  · obtain ⟨answer, one, answered⟩ := VacationRobot.answered_run_robot stores.vacations clock
      payload teamDomain (scene.noted (.commandReceived payload))
    rw [key]
    refine ⟨answer, answered.spawned found rfl, ?_, fun _ => one⟩
    intro _ _ isPoker
    exact absurd isPoker (by decide)
  · obtain ⟨answer, one, answered⟩ := SettingsRobot.answered_run_robot stores.settings clock
      payload teamDomain (scene.noted (.commandReceived payload))
    rw [key]
    refine ⟨answer, answered.spawned found rfl, ?_, fun _ => one⟩
    intro _ _ isPoker
    exact absurd isPoker (by decide)
  · have answered := PokerRobot.answered_run_robot stores.poker clock payload teamDomain
      (scene.noted (.commandReceived payload))
    rw [received] at answered
    rw [key]
    refine ⟨_, answered.spawned found rfl, ?_, ?_⟩
    · intro story votes _ reveals
      rw [reveals.answerBy_eq teamDomain]
      rfl
    · intro hidden
      exact PokerRobot.rest_answerBy teamDomain fun story votes => hidden story votes rfl

end Crew

namespace MemoryStores

theorem isDate_noon : Calendar.IsDate 2026 7 4 := by
  decide

/-- A summer noon. -/
def noon : Instant :=
  ⟨⟨2026, 7, 4, isDate_noon⟩, 43200, 0⟩

/-- A story that only one user is expected to vote on. -/
def pendingStory : Story :=
  ⟨2, 1, "Login", none, noon⟩

/-- Stores in which this story is the current one. -/
def awaitingVote : MemoryStores where
  poker := { lastId := 2, sessions := [⟨1, "eng", "Sprint", ⟨["ann"]⟩, noon, none⟩],
             stories := [pendingStory] }

/-- The vote of this user. -/
def lastVote : Payload :=
  ⟨"team", "C1", "eng", "U1", "ann", "poker", "vote 3", "id"⟩

end MemoryStores

end ChatRobots
