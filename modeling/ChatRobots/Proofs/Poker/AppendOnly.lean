/-
Module: ChatRobots.Proofs.Poker.AppendOnly
Purpose: Rows are never taken away, and a session that is finished or a story that is estimated
  stays so.
Main exports: Medium.afterCalls, Medium.callAnswers, Medium.rows, Medium.history_append_only
-/
import ChatRobots.Proofs.Poker.Books

namespace ChatRobots.Poker.Medium

/-!
Calls name sessions and stories by ids, which need not exist, and nothing is asked of the times at
which they are made.  Two states of one run are compared: after some calls, and after some more.
What is read of a row later is what was written into it, but for a mark that a call with its id has
put there; and the ids that calls answer with are all different.
-/

/-- The store after these calls. -/
def afterCalls (medium : Medium) (calls : List (Instant × Call)) : medium.State :=
  (Call.runAll medium.backend calls medium.empty).2

/-- What these calls answer, one after another. -/
def callAnswers (medium : Medium) (calls : List (Instant × Call)) :
    List (Except StoreError CallAnswer) :=
  (Call.runAll medium.backend calls medium.empty).1

/-- All rows that there are after these calls. -/
def rows (medium : Medium) (calls : List (Instant × Call)) : Ledger :=
  medium.books.ledger (medium.afterCalls calls)

section Runs

variable (medium : Medium) (calls earlier later : List (Instant × Call))

theorem sound_afterCalls : medium.books.Sound (medium.afterCalls calls) :=
  (Bookkeeping.continues_runAll medium.books_empty calls).1

/-- Later rows continue the earlier ones. -/
theorem rows_continue :
    (medium.rows earlier).Continues medium.books.hand later (medium.rows (earlier ++ later)) := by
  have more := (Bookkeeping.continues_runAll (medium.sound_afterCalls earlier) later).2
  rw [rows, rows, afterCalls, afterCalls, Call.runAll, Act.runAll_append]
  exact more

/-- The rows of each kind are those whose ids were answered. -/
theorem ids_rows (kind : RowKind) :
    (medium.rows calls).ids kind = issued kind (medium.callAnswers calls) := by
  have run := medium.books_issuing.ids_runAll medium.books_empty calls kind
  have empty : (medium.books.ledger medium.empty).ids kind = [] := by
    rw [ledger_empty]
    cases kind <;> rfl
  rwa [empty] at run

end Runs

/-- The life of a session and of a story goes one way, and history is only appended to. -/
theorem history_append_only (medium : Medium) (earlier later : List (Instant × Call)) :
    -- Rows stay, in their order, and only a call with the id of a row marks it.
    (medium.rows earlier).Continues medium.books.hand later (medium.rows (earlier ++ later)) ∧
    -- What is finished stays finished.
    (∀ line ∈ (medium.rows earlier).sessions, line.finishedAt.isSome →
      (∃ line' ∈ (medium.rows (earlier ++ later)).sessions,
        line'.id = line.id ∧ line'.finishedAt.isSome) ∧
      ∀ channel session, (medium.backend.currentSession channel
        (medium.afterCalls (earlier ++ later))).1 = .ok (some session) →
          session.id ≠ line.id) ∧
    -- What is estimated stays estimated and is never current again.
    (∀ line ∈ (medium.rows earlier).stories, line.estimation.isSome →
      (∃ line' ∈ (medium.rows (earlier ++ later)).stories,
        line'.id = line.id ∧ line'.estimation.isSome) ∧
      ∀ sessionId story, (medium.backend.currentStory sessionId
        (medium.afterCalls (earlier ++ later))).1 = .ok (some story) → story.id ≠ line.id) ∧
    -- Every id that is answered is new among the ids of its kind.
    (∀ kind, issued kind (medium.callAnswers (earlier ++ later)) =
        (medium.rows (earlier ++ later)).ids kind ∧
      (issued kind (medium.callAnswers (earlier ++ later))).Nodup) ∧
    -- Stories and votes are listed again in the order in which they were listed.
    (∀ sessionId stories stories',
      (medium.backend.storiesFor sessionId (medium.afterCalls earlier)).1 = .ok stories →
      (medium.backend.storiesFor sessionId (medium.afterCalls (earlier ++ later))).1 =
        .ok stories' → List.SublistForall₂ Story.Becomes stories stories') ∧
    (∀ storyId votes votes',
      (medium.backend.votesFor storyId (medium.afterCalls earlier)).1 = .ok votes →
      (medium.backend.votesFor storyId (medium.afterCalls (earlier ++ later))).1 = .ok votes' →
        votes.Sublist votes') := by
  have continued := medium.rows_continue earlier later
  have sound := medium.sound_afterCalls (earlier ++ later)
  refine ⟨continued, ?finished, ?estimated, ?ids, ?stories, ?votes⟩
  case finished =>
    intro line member finished
    obtain ⟨line', member', becomes⟩ := continued.sessions.mem member
    have finished' := becomes.isSome_finishedAt finished
    refine ⟨⟨line', member', becomes.id_eq, finished'⟩, ?_⟩
    intro channel session current
    rw [← becomes.id_eq]
    exact Bookkeeping.id_ne_of_finished sound member' finished' current
  case estimated =>
    intro line member estimated
    obtain ⟨line', member', becomes⟩ := continued.stories.mem member
    have estimated' := becomes.isSome_estimation estimated
    refine ⟨⟨line', member', becomes.id_eq, estimated'⟩, ?_⟩
    intro sessionId story current
    rw [← becomes.id_eq]
    exact Bookkeeping.id_ne_of_estimated sound member' estimated' current
  case ids =>
    intro kind
    rw [← medium.ids_rows]
    exact ⟨rfl, (medium.books.numbered sound).ids kind⟩
  case stories =>
    intro sessionId stories stories' read again
    exact medium.books_listing.storiesFor sound continued.stories read again
  case votes =>
    intro storyId votes votes' read again
    exact medium.books_listing.votesFor sound continued.votes read again

end ChatRobots.Poker.Medium
