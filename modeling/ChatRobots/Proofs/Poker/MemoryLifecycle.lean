/-
Module: ChatRobots.Proofs.Poker.MemoryLifecycle
Purpose: The rows of the store in memory get the ids it answers with and are listed in order.
Main exports: Memory.issuing, Memory.listing
-/
import ChatRobots.Proofs.Poker.Lifecycle
import ChatRobots.Proofs.Poker.MemoryLedger

namespace ChatRobots.Poker

/-!
The store in memory lists its rows as they stand, so a list that is read again has grown as the
rows have.  Each line is written with everything that its row holds, and what became of the line
became of the row.
-/

theorem Vote.line_injective : Function.Injective Vote.line := by
  rintro ⟨⟩ ⟨⟩ same
  simp_all [Vote.line]

theorem Story.line_injective : Function.Injective Story.line := by
  rintro ⟨_, _, _, estimation, _⟩ ⟨_, _, _, estimation', _⟩ same
  cases estimation <;> cases estimation' <;> simp_all [Story.line]

/-- What has become of the line has become of the story. -/
theorem Story.becomes_of_line {hand : Hand} {calls : List (Instant × Call)} {before after : Story}
    (becomes : before.line.Becomes hand calls after.line) : before.Becomes after := by
  generalize line : after.line = written at becomes
  cases becomes with
  | same =>
      rw [Story.line_injective line]
      exact .same before
  | marked =>
      obtain ⟨id, sessionId, title, estimation, createdAt⟩ := after
      cases estimation with
      | none => simp [Story.line] at line
      | some hours =>
          obtain ⟨rfl, rfl, rfl, _, created⟩ := StoryLine.mk.inj line
          cases created
          exact .estimated before hours

namespace Memory

/-- The store in memory answers with the ids of its new rows. -/
theorem issuing : bookkeeping.Issuing where
  startSession memory now channel title csv kind := by
    apply attempt_guarded
    cases kind <;> simp [Attempt, bookkeeping, board, Board.ledger, Ledger.ids, Session.line,
      CallAnswer.issued]
  startStory memory now sessionId title kind := by
    apply attempt_guarded
    cases kind <;> simp [Attempt, bookkeeping, board, Board.ledger, Ledger.ids, Story.line,
      CallAnswer.issued]
  castVote memory now storyId user value kind := by
    apply attempt_guarded
    split
    · rfl
    · cases kind <;> simp [Attempt, bookkeeping, board, Board.ledger, Ledger.ids, Vote.line,
        CallAnswer.issued]

/-- The store in memory lists its rows in the order of insertion. -/
theorem listing : bookkeeping.Listing where
  votesFor {s s' storyId votes votes'} _ grown read again := by
    rw [← ask_fst read, ← ask_fst again]
    have votesGrown : s.votes <+: s'.votes :=
      (List.prefix_map_iff_of_injective Vote.line_injective).1 grown
    exact (votesGrown.filter _).sublist
  storiesFor {s s' hand calls sessionId stories stories'} _ grown read again := by
    rw [← ask_fst read, ← ask_fst again]
    have storiesGrown : Grows (fun before after : Story =>
        before.line.Becomes hand calls after.line) s.stories s'.stories := grown.of_map
    have own := storiesGrown.filter (p := fun story => story.sessionId == sessionId)
      fun before after becomes => by
        have same : after.sessionId = before.sessionId := becomes.sessionId_eq
        rw [same]
    obtain ⟨kept, new, grownTo, alike⟩ := own.split
    rw [grownTo]
    refine List.sublistForall₂_iff.2 ⟨kept, ?_, List.sublist_append_left kept new⟩
    exact alike.imp fun _ _ => Story.becomes_of_line

end Memory

end ChatRobots.Poker
