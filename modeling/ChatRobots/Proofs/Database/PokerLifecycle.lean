/-
Module: ChatRobots.Proofs.Database.PokerLifecycle
Purpose: The rows of the database get the ids it answers with and are listed in a fixed order.
Main exports: Database.issuing, Database.listing
-/
import ChatRobots.Proofs.Database.PokerLedger
import ChatRobots.Proofs.Poker.Lifecycle

namespace ChatRobots

open Poker

/-!
The database lists its rows by the texts of their times and then by their ids.  Times of insertion
may be any here, so a new row can come before old ones; but the order is one on rows with different
ids, and neither the text nor the id of a row ever changes.  So what was listed is listed again, in
the order it had, with new rows in between.
-/

theorem SessionRow.line_injective : Function.Injective SessionRow.line := by
  rintro ⟨_, _, _, _, _, finishedAt⟩ ⟨_, _, _, _, _, finishedAt'⟩ same
  cases finishedAt <;> cases finishedAt' <;> simp_all [SessionRow.line]

theorem Cell.entry_injective : Function.Injective Cell.entry := by
  rintro (_ | _) (_ | _) same <;> simp_all [Cell.entry]

theorem StoryRow.line_injective : Function.Injective StoryRow.line := by
  rintro ⟨_, _, _, estimation, _⟩ ⟨_, _, _, estimation', _⟩ same
  cases estimation <;> cases estimation' <;>
    simp_all [StoryRow.line, Cell.entry_injective.eq_iff]

theorem VoteRow.line_injective : Function.Injective VoteRow.line := by
  rintro ⟨⟩ ⟨⟩ same
  simp_all [VoteRow.line, Cell.entry_injective.eq_iff]

namespace Database

section Listings

variable {ρ α : Type} {decode : ρ → Except StoreError α}

/-- What was decoded row by row. -/
theorem alike_of_mapM {rows : List ρ} {decoded : List α} (read : rows.mapM decode = .ok decoded) :
    List.Forall₂ (fun row a => decode row = .ok a) rows decoded := by
  induction rows generalizing decoded with
  | nil =>
      cases read
      exact .nil
  | cons row rest ih =>
      rw [List.mapM_cons] at read
      obtain ⟨a, first, read⟩ := bind_eq_ok read
      obtain ⟨others, later, read⟩ := bind_eq_ok read
      cases read
      exact .cons first (ih later)

/-- A listing of rows that have grown contains what the earlier one did, in its order. -/
theorem listed_again {text : ρ → String} {idOf : ρ → Int} {R : ρ → ρ → Prop}
    {S : α → α → Prop} {before after : List ρ} {list list' : List α}
    (grown : Grows R before after) (ids : (after.map idOf).Nodup) {test : ρ → Bool}
    (same_test : ∀ a b, R a b → test a = test b)
    (same_order : ∀ a b, R a b → text a = text b ∧ idOf a = idOf b)
    (becomes : ∀ a b c d, R a b → decode a = .ok c → decode b = .ok d → S c d)
    (read : (sortBy text idOf (before.filter test)).mapM decode = .ok list)
    (again : (sortBy text idOf (after.filter test)).mapM decode = .ok list') :
    List.SublistForall₂ S list list' := by
  obtain ⟨kept, new, grownTo, alike⟩ := (grown.filter same_test).split
  have nodup : ((kept ++ new).map idOf).Nodup :=
    grownTo ▸ ids.sublist (List.filter_sublist.map idOf)
  have sorted : List.Forall₂ R (sortBy text idOf (before.filter test)) (sortBy text idOf kept) := by
    refine mergeSort_alike alike ?_
    intro a b c d first second
    obtain ⟨firstText, firstId⟩ := same_order a b first
    obtain ⟨secondText, secondId⟩ := same_order c d second
    rw [firstText, firstId, secondText, secondId]
  have inOrder := sortBy_sublist text nodup
  rw [← grownTo] at inOrder
  obtain ⟨part, keptRead, within⟩ :=
    List.sublistForall₂_iff.1 (sublist_alike (alike_of_mapM again) inOrder)
  exact List.sublistForall₂_iff.2
    ⟨part, images_alike sorted (alike_of_mapM read) keptRead becomes, within⟩

end Listings

/-- What is read of a story, field by field. -/
theorem decode_story_eq_ok {row : StoryRow} {story : Story} (decoded : row.decode = .ok story) :
    ∃ estimation time, readInstant "created_at" row.createdAt = .ok time ∧
      story = ⟨row.id, row.sessionId, row.title, estimation, time⟩ ∧
      estimation.isSome = row.estimation.isSome := by
  unfold StoryRow.decode at decoded
  split at decoded
  · rename_i absent
    obtain ⟨_, estimated, dated⟩ := bind_eq_ok decoded
    obtain ⟨time, instant, made⟩ := bind_eq_ok dated
    cases estimated
    cases made
    refine ⟨_, time, instant, rfl, ?_⟩
    rw [absent]
    rfl
  · rename_i cell present
    obtain ⟨_, estimated, dated⟩ := bind_eq_ok decoded
    obtain ⟨time, instant, made⟩ := bind_eq_ok dated
    cases made
    refine ⟨_, time, instant, rfl, ?_⟩
    cases cell with
    | real value =>
        cases estimated
        rw [present]
        rfl
    | text value => cases estimated

/-- What has become of the line of a row has become of the story that is read of it. -/
theorem becomes_of_decode {hand : Hand} {calls : List (Instant × Call)} {before after : StoryRow}
    {story story' : Story} (becomes : before.line.Becomes hand calls after.line)
    (read : before.decode = .ok story) (again : after.decode = .ok story') :
    story.Becomes story' := by
  generalize line : after.line = written at becomes
  cases becomes with
  | same =>
      rw [StoryRow.line_injective line, read] at again
      cases again
      exact .same story
  | marked =>
      obtain ⟨_, time, instant, rfl, _⟩ := decode_story_eq_ok read
      obtain ⟨estimation, time', instant', rfl, isSome⟩ := decode_story_eq_ok again
      simp only [StoryRow.line, StoryLine.mk.injEq, Entry.text.injEq] at line
      obtain ⟨sameId, sameSession, sameTitle, marked, sameTime⟩ := line
      rw [sameTime, instant] at instant'
      cases instant'
      have estimated := congrArg Option.isSome marked
      rw [Option.isSome_map, ← isSome] at estimated
      obtain ⟨hours, rfl⟩ := Option.isSome_iff_exists.1 estimated
      rw [sameId, sameSession, sameTitle]
      exact .estimated _ hours

/-- The database answers with the ids of its new rows. -/
theorem issuing : pokerBookkeeping.Issuing where
  startSession db now channel title csv kind := by
    simp only [pokerBackend, startSession]
    apply attempt_command
    cases kind <;> simp [pokerBookkeeping, ledger, Ledger.ids, Table.insert, SessionRow.line,
      CallAnswer.issued]
  startStory db now sessionId title kind := by
    apply attempt_statement
    split
    · cases kind <;> simp [Attempt, pokerBookkeeping, ledger, Ledger.ids, Table.insert,
        StoryRow.line, CallAnswer.issued]
    · rfl
  castVote db now storyId user value kind := by
    apply attempt_number
    intro number _
    apply attempt_statement
    split
    · cases kind <;> simp [Attempt, pokerBookkeeping, ledger, Ledger.ids, Table.insert,
        VoteRow.line, CallAnswer.issued]
    · rfl

/-- The database lists its rows in one order. -/
theorem listing : pokerBookkeeping.Listing where
  votesFor {db db' storyId votes votes'} sound grown read again := by
    have votesGrown : db.votes.rows <+: db'.votes.rows :=
      (List.prefix_map_iff_of_injective VoteRow.line_injective).1 grown
    obtain ⟨new, same⟩ := votesGrown
    have grows : Grows Eq db.votes.rows db'.votes.rows := same ▸ .append (fun _ => rfl) _ new
    have listed := listed_again (S := Eq) grows (sound.votes.ordered.imp Int.ne_of_lt)
      (fun _ _ same => by rw [same]) (fun _ _ same => by rw [same]; exact ⟨rfl, rfl⟩)
      (fun a b c d same read again => by
        rw [same, again] at read
        exact (Except.ok.inj read).symm)
      (query_fst read) (query_fst again)
    obtain ⟨part, alike, within⟩ := List.sublistForall₂_iff.1 listed
    rw [List.forall₂_eq_eq_eq] at alike
    rwa [alike]
  storiesFor {db db' hand calls sessionId stories stories'} sound grown read again := by
    have grows : Grows (fun before after : StoryRow =>
        before.line.Becomes hand calls after.line) db.stories.rows db'.stories.rows :=
      grown.of_map
    refine listed_again grows (sound.stories.ordered.imp Int.ne_of_lt) ?_ ?_
      (fun _ _ _ _ => becomes_of_decode) (query_fst read) (query_fst again)
    · intro before after becomes
      have same : after.sessionId = before.sessionId := becomes.sessionId_eq
      rw [same]
    · intro before after becomes
      exact ⟨(Entry.text.inj becomes.createdAt_eq).symm, becomes.id_eq.symm⟩

end Database

end ChatRobots
