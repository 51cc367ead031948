/-
Module: ChatRobots.Proofs.Robot.WhoIsOut
Purpose: The days that a vacation is said to last are the days on which it is current.
Main exports: Vacations.Vacation.isCurrent_later_iff, Vacations.Vacation.daysRemaining_next,
  VacationAction.verb, VacationRobot.booked?, VacationRobot.stores_run_robot,
  VacationRobot.vacations_after, VacationRobot.answered_whoIsOut,
  VacationRobot.days_remaining_are_days_off
-/
import ChatRobots.Proofs.Calendar.DayCount
import ChatRobots.Proofs.Robot.CommandRuns
import ChatRobots.Proofs.Robot.CrewAnswers
import ChatRobots.Proofs.Vacations.StoresAgree

namespace ChatRobots

open Vacations

/-!
The days left of a vacation are computed from the numbers of two days, and whether it is current is
asked of the order of dates.  Both speak of the same days: so many days from a day on which the
vacation is current, and not one more, it still is.

The robot creates a vacation for every payload that sets one from a day to a day that is not
earlier, and for no other payload.  So what it says of who is out can be read off the payloads that
it has handled.
-/

namespace Vacations.Vacation

variable {vacation : Vacation} {today day : Date}

theorem isCurrent_iff :
    vacation.isCurrent day = true ↔ vacation.startDate ≤ day ∧ day ≤ vacation.endDate := by
  simp [isCurrent]

/-- From a day on which the vacation is current, it is current for the days that remain. -/
theorem isCurrent_later_iff (current : vacation.isCurrent today = true) {days : Nat}
    (reached : today.later? days = some day) :
    vacation.isCurrent day = true ↔ days ≤ vacation.daysRemaining today := by
  have count := Date.dayNumber_later reached
  rw [isCurrent_iff, ← Date.dayNumber_le_iff, ← Date.dayNumber_le_iff] at current ⊢
  rw [daysRemaining, Date.daysUntil]
  omega

theorem daysRemaining_eq_zero_iff :
    vacation.daysRemaining today = 0 ↔ vacation.endDate ≤ today :=
  Date.daysUntil_eq_zero_iff

/-- Until the last day is reached, each day is one less. -/
theorem daysRemaining_next (next : today.next? = some day)
    (pending : ¬ vacation.endDate ≤ today) :
    vacation.daysRemaining today = vacation.daysRemaining day + 1 := by
  have count := Date.dayNumber_next next
  rw [← Date.dayNumber_le_iff] at pending
  rw [daysRemaining, daysRemaining, Date.daysUntil, Date.daysUntil]
  omega

end Vacations.Vacation

/-- The verb that asks for an action. -/
def VacationAction.verb : VacationAction → String
  | set => "set"
  | list => "list"
  | whoIsOut => "whoisout"

namespace VacationRobot

theorem find?_router_eq_some_iff (messenger : Messenger) (verb : String)
    (action : VacationAction) :
    (router messenger).verbs.find? verb = some action ↔ verb = action.verb := by
  simp only [router, Router.register, Router.new, Dictionary.find?_put_eq_some_iff,
    Dictionary.find?_empty, reduceCtorEq, and_false, or_false]
  constructor
  · intro found
    rcases found with ⟨rfl, rfl⟩ | ⟨-, ⟨rfl, rfl⟩ | ⟨-, rfl, rfl⟩⟩ <;> rfl
  · rintro rfl
    cases action <;> decide

/-- An action is asked for by its verb. -/
theorem action?_eq_some_iff (messenger : Messenger) (command : Command) (action : VacationAction) :
    (router messenger).action? command = some action ↔ command.verb = action.verb := by
  have noDefault : (router messenger).defaultAction = none := rfl
  have noBlank : (router messenger).verbs.find? "" = none := rfl
  have noHelp : (router messenger).verbs.find? "help" = none := rfl
  rw [Router.action?_eq_find? noDefault noBlank noHelp, find?_router_eq_some_iff]

/-- The vacation that a command of the user books: it is set from a day to one that is not
earlier. -/
def bookedBy? (user : String) (command : Command) : Option Vacations.Call :=
  match command.args with
  | first :: last :: description =>
      match Date.ofText first, Date.ofText last with
      | .ok startDate, .ok endDate =>
          if command.verb = "set" ∧ startDate ≤ endDate then
            some (.create user (" ".intercalate description) startDate endDate)
          else none
      | _, _ => none
  | _ => none

/-- The vacation that a payload books. -/
def booked? (payload : Payload) : Option Vacations.Call :=
  bookedBy? payload.userName (.parse payload.text)

/-- What is said when these vacations are current. -/
def outText (today : Date) (out : List Vacation) : String :=
  if out.isEmpty then "No one is out right now"
  else "Here is a list of people that are out:\n" ++ "\n".intercalate (out.map (outLine today))

section Replies

theorem readDay_of_ok {σ : Type} {raw : String} {date : Date} (read : Date.ofText raw = .ok date)
    (scene : Scene σ) : readDay raw scene = (.ok date, scene) := by
  rw [readDay, read]
  rfl

theorem readDay_of_error {σ : Type} {raw : String} {error : TimeTextError}
    (unread : Date.ofText raw = .error error) (scene : Scene σ) :
    ∃ cause, readDay raw scene = (.error cause, scene) := by
  rw [readDay, unread]
  exact ⟨_, rfl⟩

/-- What comes of setting a vacation, and what memory is then: the vacation is booked, or the reason
why not is told. -/
inductive Settled (before : Memory) :
    Option Vacations.Call → Except RobotError String → Memory → Prop where
  | booked (call : Vacations.Call) :
      Settled before (some call) (.ok "Vacation created") (call.run Memory.backend before).2
  | backwards {text : String} (told : Begins "The end date" text) :
      Settled before none (.ok text) before
  | failed (error : RobotError) : Settled before none (.error error) before

theorem settled_set {command : Command} (verb : command.verb = "set") (today : Date)
    (payload : Payload) (scene : Scene Memory) :
    ∃ result after,
      reply Memory.backend today .set payload command scene =
          (result, { scene with stores := after }) ∧
        Settled scene.stores (bookedBy? payload.userName command) result after := by
  simp only [reply, bookedBy?, set]
  obtain ⟨name, args, params, rawArgs⟩ := command
  obtain rfl : name = "set" := verb
  -- The two dates are there, they can be read, and they are in order; or one of this fails.
  rcases args with _ | ⟨first, _ | ⟨last, description⟩⟩
  · exact ⟨_, _, run_bind_of_error (run_requireArgs_of_error rfl scene), .failed _⟩
  · exact ⟨_, _, run_bind_of_error (run_requireArgs_of_error rfl scene), .failed _⟩
  · rw [run_bind_of_ok (run_requireArgs_of_ok rfl scene)]
    simp only [List.length_cons, List.length_nil, List.take_succ_cons, List.take_zero,
      List.headD_cons, List.getD_cons_succ, List.getD_cons_zero]
    cases startRead : Date.ofText first with
    | error error =>
        obtain ⟨cause, unread⟩ := readDay_of_error startRead scene
        exact ⟨_, _, run_bind_of_error unread, .failed cause⟩
    | ok startDate =>
        rw [run_bind_of_ok (readDay_of_ok startRead scene)]
        cases endRead : Date.ofText last with
        | error error =>
            obtain ⟨cause, unread⟩ := readDay_of_error endRead scene
            exact ⟨_, _, run_bind_of_error unread, .failed cause⟩
        | ok endDate =>
            rw [run_bind_of_ok (readDay_of_ok endRead scene)]
            by_cases order : startDate ≤ endDate
            · simp only [order, and_self, if_true]
              exact ⟨_, _, rfl,
                .booked (.create payload.userName (" ".intercalate description) _ _)⟩
            · have lead : Begins "The end date" "The end date *" := by decide +kernel
              simp only [order, and_false, if_false]
              exact ⟨_, _, rfl, .backwards ((((lead.append _).append _).append _).append _)⟩

/-- Only a command with this verb books a vacation. -/
theorem bookedBy?_eq_none {user : String} {command : Command} (verb : command.verb ≠ "set") :
    bookedBy? user command = none := by
  unfold bookedBy?
  split
  · split
    · rw [if_neg fun booked => verb booked.1]
    · rfl
  · rfl

end Replies

section Runs

variable {teamDomain : Option String} {payload : Payload} {scene : Scene Memory}

theorem run_robot (teamDomain : Option String) (clock : Clock) (payload : Payload)
    (scene : Scene Memory) :
    (robot Memory.backend teamDomain).run clock payload scene =
      (.finished, ((router (messenger teamDomain)).dispatch
        (handle Memory.backend clock.today (messenger teamDomain)) payload payload.text scene).2) :=
  run_bind_pure _ RunEnd.finished scene

/-- What an action settles with the store is said, and what it failed of is reported. -/
theorem answered_of_reply (teamDomain : Option String) (clock : Clock) {action : VacationAction}
    (verb : (Command.parse payload.text).verb = action.verb)
    {result : Except RobotError String} {after : Memory}
    (replied : reply Memory.backend clock.today action payload (.parse payload.text) scene =
      (result, { scene with stores := after })) :
    (messenger teamDomain).Answered "vacation" payload
      ((router (messenger teamDomain)).settle (result.map fun text => ⟨text, []⟩, after)) scene
      ((robot Memory.backend teamDomain).run clock payload scene).2 := by
  have asked := (action?_eq_some_iff (messenger teamDomain) _ action).2 verb
  rw [run_robot]
  exact Router.answered_dispatch_of_quiet
    (quiet_reply Memory.backend clock.today action payload (.parse payload.text)) rfl asked replied

/-- The vacations after a payload are those before it, and the one that it books. -/
theorem stores_run_robot (teamDomain : Option String) (clock : Clock) (payload : Payload)
    (scene : Scene Memory) :
    ((robot Memory.backend teamDomain).run clock payload scene).2.stores =
      match booked? payload with
      | none => scene.stores
      | some call => (call.run Memory.backend scene.stores).2 := by
  by_cases verb : (Command.parse payload.text).verb = "set"
  · obtain ⟨result, after, replied, settled⟩ := settled_set verb clock.today payload scene
    have answered := answered_of_reply teamDomain clock verb replied
    rw [answered.stores, Router.settle_snd, booked?]
    generalize bookedBy? payload.userName (.parse payload.text) = books at settled ⊢
    cases settled <;> rfl
  · rw [booked?, bookedBy?_eq_none verb]
    cases asked : (router (messenger teamDomain)).action? (.parse payload.text) with
    | none =>
        rw [run_robot, Router.dispatch_of_no_action asked]
        exact (Router.answered_reply (router (messenger teamDomain)) payload _ scene).stores
    | some action =>
        have verb' := (action?_eq_some_iff (messenger teamDomain) _ action).1 asked
        cases action with
        | set => exact absurd verb' verb
        | list => exact (answered_of_reply teamDomain clock verb' rfl).stores
        | whoIsOut => exact (answered_of_reply teamDomain clock verb' rfl).stores

/-- To handle payloads one after another is to make the calls that they book. -/
theorem storesAfter_eq (teamDomain : Option String) (requests : List (Clock × Payload))
    (memory : Memory) :
    (robot Memory.backend teamDomain).storesAfter requests memory =
      (Act.runAll (Call.run Memory.backend) (requests.filterMap fun (_, payload) => booked? payload)
        memory).2 := by
  induction requests generalizing memory with
  | nil => rfl
  | cons request rest ih =>
      obtain ⟨clock, payload⟩ := request
      rw [Robot.storesAfter, stores_run_robot, ih, List.filterMap_cons]
      dsimp only
      cases booked? payload <;> rfl

/-- The vacations after some payloads are those that they book. -/
theorem vacations_after (teamDomain : Option String) (requests : List (Clock × Payload)) :
    ((robot Memory.backend teamDomain).storesAfter requests {}).vacations =
      created (requests.filterMap fun (_, payload) => booked? payload) := by
  rw [storesAfter_eq, memory_after]

/-- A payload that sets a vacation is confirmed if and only if it books one. -/
theorem confirmed_iff (teamDomain : Option String) (clock : Clock)
    (verb : (Command.parse payload.text).verb = "set") (working : scene.refusal = none) :
    ((robot Memory.backend teamDomain).run clock payload scene).2.messages =
        scene.messages ++ [(messenger teamDomain).message payload "Vacation created"] ↔
      (booked? payload).isSome := by
  obtain ⟨result, after, replied, settled⟩ := settled_set verb clock.today payload scene
  have answered := answered_of_reply teamDomain clock verb replied
  rw [booked?]
  refine (answered.one_message_iff working "Vacation created").trans ?_
  generalize bookedBy? payload.userName (.parse payload.text) = books at settled ⊢
  cases settled with
  | booked call => exact iff_of_true rfl rfl
  | backwards told =>
      have other := told.ne (begins_refl "Vacation created") (by decide +kernel)
      exact iff_of_false (fun same => other (List.singleton_inj.1 same)) Bool.false_ne_true
  | failed error =>
      have told := (router (messenger teamDomain)).begins_report error
      have other := told.ne (begins_refl "Vacation created") (by decide +kernel)
      exact iff_of_false (fun same => other (List.singleton_inj.1 same)) Bool.false_ne_true

/-- Who is out is listed, with the days that are left. -/
theorem answered_whoIsOut (teamDomain : Option String) (clock : Clock) (scene : Scene Memory)
    (verb : (Command.parse payload.text).verb = "whoisout")
    (numbered : scene.stores.vacations.Pairwise fun a b => a.id < b.id) :
    ∃ out,
      Lists scene.stores.vacations (fun vacation => vacation.isCurrent clock.today = true) out ∧
      (messenger teamDomain).Answered "vacation" payload
        (⟨outText clock.today out, []⟩, scene.stores) scene
        ((robot Memory.backend teamDomain).run clock payload scene).2 := by
  let current := (scene.stores.vacations.filter (·.isCurrent clock.today)).mergeSort
    Vacation.startLe
  have replied : reply Memory.backend clock.today .whoIsOut payload (.parse payload.text) scene =
    (.ok (outText clock.today current), { scene with stores := scene.stores }) := rfl
  exact ⟨current, lists_mergeSort numbered fun vacation => vacation.isCurrent clock.today,
    answered_of_reply teamDomain clock verb replied⟩

end Runs

/-- The days that are said to remain are the days off.  From a day on which a vacation is current,
it is current for so many days more as remain, and not one longer; no days remain on its last day
and after it, and until then each day is one less.  The robot confirms a vacation that it books, and
says who is out by the vacations booked before: those that have begun and have not ended, each with
the days that remain. -/
theorem days_remaining_are_days_off (teamDomain : Option String) :
    (∀ (vacation : Vacation) (today : Date),
      (vacation.isCurrent today = true → ∀ days day, today.later? days = some day →
        (vacation.isCurrent day = true ↔ days ≤ vacation.daysRemaining today)) ∧
      (vacation.daysRemaining today = 0 ↔ vacation.endDate ≤ today) ∧
      ∀ tomorrow, today.next? = some tomorrow → ¬ vacation.endDate ≤ today →
        vacation.daysRemaining today = vacation.daysRemaining tomorrow + 1) ∧
    ∀ (requests : List (Clock × Payload)) (clock : Clock) (payload : Payload),
      let robot := robot Memory.backend teamDomain
      let memory := robot.storesAfter requests {}
      let said := (robot.run clock payload { stores := memory }).2.messages
      ((Command.parse payload.text).verb = "set" →
        (said = [(messenger teamDomain).message payload "Vacation created"] ↔
          (booked? payload).isSome)) ∧
      ((Command.parse payload.text).verb = "whoisout" → ∃ out,
        said = [(messenger teamDomain).message payload (outText clock.today out)] ∧
        Lists (created (requests.filterMap fun (_, payload) => booked? payload))
          (fun vacation =>
            vacation.startDate ≤ clock.today ∧ clock.today ≤ vacation.endDate) out ∧
        ∀ vacation ∈ out, ∀ days day, clock.today.later? days = some day →
          (vacation.isCurrent day = true ↔ days ≤ vacation.daysRemaining clock.today)) := by
  refine ⟨?counted, ?told⟩
  case counted =>
    intro vacation today
    exact ⟨fun current days day => Vacation.isCurrent_later_iff current,
      Vacation.daysRemaining_eq_zero_iff, fun tomorrow => Vacation.daysRemaining_next⟩
  case told =>
    intro requests clock payload robot memory said
    have held := vacations_after teamDomain requests
    refine ⟨fun verb => confirmed_iff teamDomain clock verb rfl, fun verb => ?_⟩
    have numbered := (rising_created (requests.filterMap fun (_, payload) => booked? payload)).1
    rw [← held] at numbered ⊢
    obtain ⟨out, lists, answered⟩ :=
      answered_whoIsOut teamDomain clock { stores := memory } verb numbered
    refine ⟨out, answered.delivered rfl, ?_, ?_⟩
    · simpa only [Vacation.isCurrent_iff] using lists
    · intro vacation member days day
      exact Vacation.isCurrent_later_iff ((lists.mem_iff vacation).1 member).2

/-- What a user asks of the robot. -/
def asks (user text : String) : Payload :=
  ⟨"team", "C1", "eng", "U1", user, "vacation", text, "id"⟩

/-- Noon of the fourth of July. -/
def fourthOfJuly : Clock :=
  ⟨MemoryStores.noon, MemoryStores.noon.date⟩

/-- Two users book a vacation, and one tries to book one that ends before it begins. -/
def bookings : List (Clock × Payload) :=
  [(fourthOfJuly, asks "ann" "set 2026-07-04 2026-07-15 Sea"),
    (fourthOfJuly, asks "bob" "set 2026-07-04 2026-07-03"),
    (fourthOfJuly, asks "cleo" "set 2026-07-01 2026-07-03")]

/-- The one who is out is named, with the days that are left. -/
theorem ann_is_out :
    let robot := robot Memory.backend none
    let memory := robot.storesAfter bookings {}
    (robot.run fourthOfJuly (asks "bob" "whoisout") { stores := memory }).2.messages.map (·.text) =
      ["Here is a list of people that are out:\n" ++
        "- *ann* is out from *Sat, Jul 4* to *Wed, Jul 15*. They're out for another *11* days."] ∧
      (july 3).later? 11 = some (july 14) := by
  have verb : (Command.parse (asks "bob" "whoisout").text).verb = "whoisout" := by decide +kernel
  have booked : bookings.filterMap (fun (_, payload) => booked? payload) =
      [.create "ann" "Sea" (july 3) (july 14), .create "cleo" "" (july 0) (july 2)] := by
    decide +kernel
  obtain ⟨out, said, lists, -⟩ :=
    ((days_remaining_are_days_off none).2 bookings fourthOfJuly (asks "bob" "whoisout")).2 verb
  have only : out = [⟨1, "ann", "Sea", july 3, july 14⟩] := by
    rw [booked] at lists
    exact lists.unique (.of_perm (by decide) (by decide))
  intro robot memory
  refine ⟨?_, by decide +kernel⟩
  rw [said, only]
  decide +kernel

end VacationRobot

end ChatRobots
