/-
Module: ChatRobots.Proofs.Robot.CommandRuns
Purpose: What commands lead to over a faithful store, delivered or not.
Main exports: Robot.storesAfter, PokerRobot.Led, PokerRobot.InOrder, PokerRobot.Led.inOrder,
  PokerRobot.Led.storesAfter
-/
import ChatRobots.Proofs.Poker.Runs
import ChatRobots.Proofs.Robot.PokerHandling
import ChatRobots.Proofs.Robot.PokerWork

namespace ChatRobots

open Poker

/-!
A run of commands is known by the times at which it inserts rows: a store that is sound for these
times is sound for what is left of them after the run, and its board stays well formed and
exclusive on the way.  What becomes of a store does not depend on the delivery, so the commands
may be answered or not.
-/

/-- The stores after these requests, handled one after another and all of them answered. -/
def Robot.storesAfter {σ : Type} (robot : Robot σ) : List (Clock × Payload) → σ → σ
  | [], stores => stores
  | (clock, payload) :: rest, stores =>
      robot.storesAfter rest (robot.run clock payload { stores := stores }).2.stores

namespace PokerRobot

variable {σ : Type} {store : Backend σ} (faithful : Faithful store)

/-- Commands have led from the first store to the second one, whoever gave them, and whether or not
their answers were delivered.  Rows were inserted at these times, one after another. -/
inductive Led (start : σ) : List Instant → σ → Prop where
  | start : Led start [] start
  | handled {times : List Instant} (scene : Scene σ) (led : Led start times scene.stores)
      (teamDomain : Option String) (clock : Clock) (payload : Payload) :
      Led start
        (times ++ (answer (partOf faithful payload scene.stores) payload
          (messenger teamDomain)).stamps clock.now)
        ((robot store teamDomain).run clock payload scene).2.stores

/-- Rows may be inserted at these times, and the board is in order. -/
structure InOrder (times : List Instant) (s : σ) : Prop where
  sound : faithful.Sound times s
  wellFormed : (faithful.board s).WellFormed
  exclusive : (faithful.board s).Exclusive

variable {faithful}

/-- What has become of the store, with any delivery. -/
theorem stored_robot {times : List Instant} {scene : Scene σ} {payload : Payload} {clock : Clock}
    {teamDomain : Option String}
    (sound : faithful.Sound ((answer (partOf faithful payload scene.stores) payload
      (messenger teamDomain)).stamps clock.now ++ times) scene.stores) :
    Stored faithful clock.now times scene.stores
      ((robot store teamDomain).run clock payload scene).2.stores
      (answer (partOf faithful payload scene.stores) payload (messenger teamDomain)) := by
  let delivering : Scene σ := { stores := scene.stores }
  have working : delivering.refusal = none := rfl
  have answered := answered_robot working sound
  have delivered := answered_run_robot store clock payload teamDomain delivering
  have any := answered_run_robot store clock payload teamDomain scene
  rw [any.stores, ← delivered.stores]
  exact answered.stored

/-- A turn keeps the board in order. -/
theorem InOrder.stored {times : List Instant} {turn : Turn} {before after : σ} {channel : String}
    {now : Instant} (inOrder : InOrder faithful (turn.stamps now ++ times) before)
    (stored : Stored faithful now times before after turn)
    (about : turn.Changes (·.About channel (faithful.board before)))
    (free : turn.Changes fun change => ∀ sessionId title, change = .story sessionId title →
      (faithful.board before).currentStory sessionId = none) :
    InOrder faithful times after := by
  cases turn with
  | tells | fails =>
      obtain ⟨rfl, sound⟩ := stored
      exact ⟨sound, inOrder.wellFormed, inOrder.exclusive⟩
  | writes change texts =>
      obtain ⟨id, wrote⟩ := stored
      have here : change.About channel (faithful.board before) := about
      refine ⟨wrote.sound, ?_, ?_⟩
      · rw [wrote.board_eq]
        exact inOrder.wellFormed.apply _ _ here.fits wrote.fresh
      · rw [wrote.board_eq]
        exact inOrder.exclusive.apply _ _ id free

/-- Commands lead from a board that is in order to one that is. -/
theorem Led.inOrder {start s : σ} {times rest : List Instant} (led : Led faithful start times s)
    (opening : InOrder faithful (times ++ rest) start) : InOrder faithful rest s := by
  induction led generalizing rest with
  | start => exact opening
  | handled scene led teamDomain clock payload ih =>
      rw [List.append_assoc] at opening
      have before := ih opening
      exact before.stored (stored_robot before.sound) (answer_about _ payload _)
        (answer_free _ payload _)

/-- Requests lead to the stores after them; rows are inserted at some of the times at which they
are handled. -/
theorem Led.storesAfter {start s : σ} {times : List Instant} (led : Led faithful start times s)
    (teamDomain : Option String) (requests : List (Clock × Payload)) :
    ∃ more, more.Sublist (requests.map (·.1.now)) ∧
      Led faithful start (times ++ more) ((robot store teamDomain).storesAfter requests s) := by
  induction requests generalizing times s with
  | nil => exact ⟨[], .slnil, (List.append_nil times).symm ▸ led⟩
  | cons request rest ih =>
      obtain ⟨clock, payload⟩ := request
      obtain ⟨more, within, later⟩ :=
        ih (led.handled { stores := s } teamDomain clock payload)
      rw [List.append_assoc] at later
      exact ⟨_, (Turn.stamps_sublist _ clock.now).append within, later⟩

end PokerRobot

end ChatRobots
