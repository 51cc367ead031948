/-
Module: ChatRobots.Proofs.Poker.FailedCalls
Purpose: A call of a poker store that fails changes nothing, whatever the store holds.
Main exports: Backend.Careful, Memory.careful, Database.pokerCareful, Medium.careful,
  Backend.Careful.startStory_table, Backend.Careful.castVote_table_eq_error
-/
import ChatRobots.Proofs.Poker.Books
import ChatRobots.Proofs.Poker.Entries

namespace ChatRobots

open Poker

/-!
Each call of a store is one step: it comes to its end, or it fails and has changed nothing.  This
holds of every state, of tables with rows that cannot be read and of stores that were told to fail
as well.  A rule of the table is more than one call.  Where a call that writes is followed by a
question, the question can fail after the row was written; the vote is the only such rule.
-/

namespace Poker

theorem clean_of_attempt {σ α : Type} {act : Act σ α}
    (attempt : ∀ s, Attempt s (fun _ _ => True) (act s)) : Clean act := by
  intro before error after failed
  have same := attempt before
  rw [failed] at same
  exact same

/-- A call that fails changes nothing, and a question never does. -/
structure Backend.Careful {σ : Type} (store : Backend σ) : Prop where
  reads : store.Reads fun before after => after = before
  startSession : ∀ now channel title csv, Clean (store.startSession now channel title csv)
  startStory : ∀ now sessionId title, Clean (store.startStory now sessionId title)
  castVote : ∀ now storyId user value, Clean (store.castVote now storyId user value)
  setEstimation : ∀ storyId hours, Clean (store.setEstimation storyId hours)
  finishSession : ∀ now sessionId, Clean (store.finishSession now sessionId)

namespace Memory

/-- A store that has taken a vote was not told to fail. -/
theorem working_of_castVote {now : Instant} {storyId : Int} {user value : String} {vote : Vote}
    {before after : Memory} (cast : castVote now storyId user value before = (.ok vote, after)) :
    after.failure = none := by
  unfold castVote guarded at cast
  split at cast
  · cases cast
  · rename_i working
    dsimp only at cast
    split at cast
    · cases cast
    · cases cast
      exact working

theorem working_of_finishSession {now : Instant} {sessionId : Int} {before after : Memory}
    (finished : finishSession now sessionId before = (.ok (), after)) : after.failure = none := by
  unfold finishSession guarded at finished
  split at finished
  · cases finished
  · rename_i working
    cases finished
    exact working

theorem ask_of_working {α : Type} {memory : Memory} (working : memory.failure = none)
    (question : Memory → α) : ask question memory = (.ok (question memory), memory) := by
  simp only [ask, guarded, working]

/-- A store that was told to fail changes nothing by failing. -/
theorem clean_guarded {α : Type} {act : Act Memory α} (clean : Clean act) :
    Clean (guarded act) := by
  intro before error after failed
  unfold guarded at failed
  split at failed
  · cases failed
    rfl
  · exact clean failed

theorem careful : backend.Careful where
  reads := bookkeeping.reads
  startSession _ _ _ _ := clean_guarded fun _ _ _ failed => nomatch failed
  startStory _ _ _ := clean_guarded fun _ _ _ failed => nomatch failed
  castVote _ _ _ value := by
    apply clean_guarded
    intro before error after failed
    dsimp only at failed
    split at failed
    · cases failed
      rfl
    · cases failed
  setEstimation _ hours := by
    apply clean_guarded
    intro before error after failed
    dsimp only at failed
    split at failed
    · cases failed
      rfl
    · cases failed
  finishSession _ _ := clean_guarded fun _ _ _ failed => nomatch failed

end Memory

end Poker

namespace Database

/-- A command fails only where the pool is closed. -/
theorem clean_command {α : Type} (change : Database → α × Database) : Clean (command change) :=
  clean_of_attempt fun _ => attempt_command trivial

theorem pokerCareful : pokerBackend.Careful where
  reads := pokerBookkeeping.reads
  startSession _ _ _ _ := by
    simp only [pokerBackend, startSession]
    exact clean_command _
  startStory _ _ _ := by
    apply clean_of_attempt
    intro db
    apply attempt_statement
    split
    · trivial
    · rfl
  castVote _ _ _ _ := by
    apply clean_of_attempt
    intro db
    apply attempt_number
    intro number _
    apply attempt_statement
    split
    · trivial
    · rfl
  setEstimation _ _ := by
    apply clean_of_attempt
    intro db
    apply attempt_number
    intro number _
    exact attempt_command trivial
  finishSession _ _ := by
    simp only [pokerBackend, finishSession]
    exact clean_command _

end Database

namespace Poker

theorem Medium.careful (medium : Medium) : medium.backend.Careful := by
  cases medium with
  | memory => exact Memory.careful
  | database => exact Database.pokerCareful

section Rules

variable {σ : Type} {store : Backend σ}

/-- A story that is refused leaves the store as it was. -/
theorem Backend.Careful.startStory_table (careful : store.Careful) (now : Instant)
    (session : Session) (title : String) : Clean (Table.startStory store now session title) := by
  apply Clean.bind_of_moves (careful.reads.currentStory session.id)
  intro current
  cases current with
  | none => exact (careful.startStory now session.id title).bind_pure _
  | some pending => exact clean_pure _

/-- A vote that fails was refused, or it was cast and the votes could not be read again. -/
theorem Backend.Careful.castVote_table_eq_error (careful : store.Careful) {now : Instant}
    {session : Session} {story : Story} {user value : String} {before after : σ}
    {error : StoreError}
    (failed : Table.castVote store now session story user value before = (.error error, after)) :
    after = before ∨ session.roster.isEmpty = false ∧
      (∃ vote, store.castVote now story.id user value before = (.ok vote, after)) ∧
        store.votesFor story.id after = (.error error, after) := by
  rcases run_bind_eq_error failed with refused | ⟨vote, between, cast, checking⟩
  · exact .inl (careful.castVote now story.id user value refused)
  · have still := careful.reads.check session story vote between
    rw [checking] at still
    obtain rfl : after = between := still
    cases tracked : session.roster.isEmpty with
    | true =>
        rw [if_pos tracked] at checking
        cases checking
    | false =>
        rw [if_neg (Bool.eq_false_iff.1 tracked)] at checking
        rcases run_bind_eq_error checking with unread | ⟨votes, later, read, revealing⟩
        · exact .inr ⟨rfl, ⟨vote, cast⟩, unread⟩
        · -- What was read once is read again.
          obtain rfl : later = after :=
            (congrArg Prod.snd read).symm.trans (careful.reads.votesFor story.id after)
          have again : Table.revealVotes store story later = (.ok votes, later) := read
          dsimp only at revealing
          split at revealing
          · rw [run_bind_of_ok again] at revealing
            cases revealing
          · cases revealing

end Rules

end Poker

end ChatRobots
