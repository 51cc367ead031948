/-
Module: ChatRobots.Proofs.Robot.Reached
Purpose: The states that commands of the poker robot lead to, and what holds in all of them.
Main exports: PokerRobot.moves_work, PokerRobot.moves_answerBy, Medium.Reached, Medium.Reached.sound
-/
import ChatRobots.Proofs.Poker.Books
import ChatRobots.Proofs.Poker.Entries
import ChatRobots.Proofs.Robot.PokerWork

namespace ChatRobots

open Poker

/-!
Whatever a command comes to, the store has gone through calls only.  What every call preserves is
therefore preserved by every command: by those that are answered and by those that break off, with
a working delivery and with one that refuses.  In particular the books of a store stay in order,
starting from the empty store, whatever the commands and the times at which they are given.
-/

namespace PokerRobot

section Moves

variable {σ α : Type} {R : σ → σ → Prop}

theorem moves_call {act : Act σ α} (moves : Moves R act) : Moves R (Work.call act) := by
  intro before
  have moved := moves before
  generalize called : act before = step at moved
  obtain ⟨result, after⟩ := step
  cases result with
  | ok answer =>
      rw [Work.call_of_ok called]
      exact moved
  | error error =>
      rw [Work.call_of_error called]
      exact moved

theorem moves_requireArgs (refl : ∀ state, R state state) (command : Command)
    (names : List String) : Moves R (Work.requireArgs command names) := by
  unfold Work.requireArgs
  split
  · exact moves_pure refl _
  · exact moves_throw refl _

variable {store : Backend σ} {payload : Payload}

theorem moves_withSession (reads : store.Reads R) {use : Session → Work σ Reply}
    (uses : ∀ session, Moves R (use session)) : Moves R (withSession store payload use) := by
  apply (moves_call (reads.currentSession payload.channelName)).bind reads.trans
  intro current
  cases current with
  | none => exact moves_pure reads.refl _
  | some session => exact uses session

theorem moves_withStory (reads : store.Reads R) {use : Session → Story → Work σ Reply}
    (uses : ∀ session story, Moves R (use session story)) :
    Moves R (withStory store payload use) := by
  apply moves_withSession reads
  intro session
  apply (moves_call (reads.currentStory session.id)).bind reads.trans
  intro current
  cases current with
  | none => exact moves_pure reads.refl _
  | some story => exact uses session story

/-- A status is asked for with questions only. -/
theorem moves_status (reads : store.Reads R) (now : Instant) (command : Command) :
    Moves R (work store now payload .status command) :=
  (moves_call (reads.status payload.channelName)).bind reads.trans
    fun _ => moves_pure reads.refl _

/-- Votes are revealed with questions only. -/
theorem moves_reveal (reads : store.Reads R) (now : Instant) (command : Command) :
    Moves R (work store now payload .reveal command) := by
  apply moves_withStory reads
  intro _ story
  exact (moves_call (reads.votesFor story.id)).bind reads.trans fun _ => moves_pure reads.refl _

/-- What every call of the store preserves is preserved by every action. -/
theorem moves_work (respects : store.Respects R) (now : Instant) (action : PokerAction)
    (command : Command) : Moves R (work store now payload action command) := by
  have reads := respects.toReads
  cases action with
  | status => exact moves_status reads now command
  | reveal => exact moves_reveal reads now command
  | startSession =>
      unfold work
      dsimp only
      split
      · exact moves_pure reads.refl _
      · exact (moves_call (respects.startSession now _ _ _)).bind reads.trans
          fun _ => moves_pure reads.refl _
  | startStory =>
      apply moves_withSession reads
      intro session
      dsimp only
      split
      · exact moves_pure reads.refl _
      · exact (moves_call (respects.startStory_table now session _)).bind reads.trans
          fun _ => moves_pure reads.refl _
  | vote =>
      apply moves_withStory reads
      intro session story
      apply (moves_requireArgs reads.refl command ["vote"]).bind reads.trans
      intro args
      exact (moves_call (respects.castVote_table now session story _ _)).bind reads.trans
        fun _ => moves_pure reads.refl _
  | estimate =>
      apply moves_withStory reads
      intro _ story
      apply (moves_requireArgs reads.refl command ["hours"]).bind reads.trans
      intro args
      exact (moves_call (respects.setEstimation story.id _)).bind reads.trans
        fun _ => moves_pure reads.refl _
  | finish =>
      apply moves_withSession reads
      intro session
      apply (moves_call (respects.finishSession now session.id)).bind reads.trans
      intro _
      exact (moves_call (reads.storiesFor session.id)).bind reads.trans
        fun _ => moves_pure reads.refl _

/-- What every call of the store preserves is preserved by every payload. -/
theorem moves_answerBy (respects : store.Respects R) (clock : Clock) (payload : Payload)
    (teamDomain : Option String) (before : σ) :
    R before (answerBy store clock payload teamDomain before).2 := by
  unfold answerBy Router.answer
  split
  · exact respects.refl before
  · rw [Router.settle_snd]
    exact moves_work respects clock.now _ _ before

end Moves

end PokerRobot

namespace Poker.Medium

/-- The states of a store that was empty at first and that commands of the poker robot have led
to, whoever gave them and whether or not their answers were delivered. -/
inductive Reached (medium : Medium) : medium.State → Prop where
  | empty : Reached medium medium.empty
  | handled (scene : Scene medium.State) (reached : Reached medium scene.stores)
      (teamDomain : Option String) (clock : Clock) (payload : Payload) :
      Reached medium ((PokerRobot.robot medium.backend teamDomain).run clock payload scene).2.stores

/-- In every state that is reached the books are in order. -/
theorem Reached.sound {medium : Medium} {state : medium.State} (reached : medium.Reached state) :
    medium.books.Sound state := by
  induction reached with
  | empty => exact medium.books_empty
  | handled scene reached teamDomain clock payload ih =>
      have answered := PokerRobot.answered_run_robot medium.backend clock payload teamDomain scene
      rw [answered.stores]
      exact PokerRobot.moves_answerBy medium.books.respects clock payload teamDomain _ ih

end Poker.Medium

end ChatRobots
