/-
Module: ChatRobots.Proofs.Robot.LateFailures
Purpose: What stands in the store when a command of the poker robot fails.
Main exports: PokerRobot.Late, PokerRobot.failed_work, Database.HalfDone,
  Database.halfDone_of_late, Memory.not_late
-/
import ChatRobots.Proofs.Poker.FailedCalls
import ChatRobots.Proofs.Robot.Reached

namespace ChatRobots

open Poker

/-!
A command that asks before it writes, and writes in its last call, has written nothing when it
fails.  Two commands go on after they have written: a vote in a session with a roster reads the
votes again, and a finished session is asked for its stories.  There is no transaction around the
calls, so what was written stays when the later question fails.  In memory a question does not fail
after a call that was answered; in the database it does when a row cannot be read.
-/

namespace PokerRobot

section Failures

variable {σ : Type} {store : Backend σ} {now : Instant} {payload : Payload} {command : Command}
  {before after : σ} {error : RobotError}

/-- A command has failed after it had written, for this cause. -/
inductive Late (store : Backend σ) (now : Instant) (payload : Payload) (command : Command)
    (before : σ) (cause : StoreError) (after : σ) : PokerAction → Prop where
  | vote {session : Session} {story : Story} {args : List String} {vote : Vote}
      (current : Table.currentSession store payload.channelName before =
        (.ok (some session), before))
      (voted : Table.currentStory store session before = (.ok (some story), before))
      (given : command.requireArgs ["vote"] = .ok args)
      (tracked : session.roster.isEmpty = false)
      (cast : store.castVote now story.id payload.userName (args.headD "") before =
        (.ok vote, after))
      (unread : store.votesFor story.id after = (.error cause, after)) :
      Late store now payload command before cause after .vote
  | finish {session : Session}
      (current : Table.currentSession store payload.channelName before =
        (.ok (some session), before))
      (finished : store.finishSession now session.id before = (.ok (), after))
      (unread : store.storiesFor session.id after = (.error cause, after)) :
      Late store now payload command before cause after .finish

theorem clean_call {α : Type} {act : Act σ α} (clean : Clean act) : Clean (Work.call act) := by
  intro before error after failed
  obtain ⟨cause, -, failed⟩ := Work.call_eq_error failed
  exact clean failed

theorem requireArgs_still (command : Command) (names : List String) :
    Moves (fun before after : σ => after = before) (Work.requireArgs command names) :=
  moves_requireArgs (R := fun before after => after = before) (fun _ => rfl) command names

variable (careful : store.Careful)
include careful

/-- Work with the current session that has failed has changed nothing, or failed in its use. -/
theorem withSession_eq_error {use : Session → Work σ Reply}
    (failed : withSession store payload use before = (.error error, after)) :
    after = before ∨ ∃ session,
      Table.currentSession store payload.channelName before = (.ok (some session), before) ∧
        use session before = (.error error, after) := by
  have still := moves_call (careful.reads.currentSession payload.channelName)
  rcases run_bind_eq_error failed with unasked | ⟨current, between, asked, failed⟩
  · exact .inl (clean_of_moves still unasked)
  · obtain rfl : between = before := (congrArg Prod.snd asked).symm.trans (still before)
    cases current with
    | none => cases failed
    | some session => exact .inr ⟨session, Work.call_eq_ok asked, failed⟩

theorem withStory_eq_error {use : Session → Story → Work σ Reply}
    (failed : withStory store payload use before = (.error error, after)) :
    after = before ∨ ∃ session story,
      Table.currentSession store payload.channelName before = (.ok (some session), before) ∧
        Table.currentStory store session before = (.ok (some story), before) ∧
          use session story before = (.error error, after) := by
  rcases withSession_eq_error careful failed with same | ⟨session, current, failed⟩
  · exact .inl same
  · have still := moves_call (careful.reads.currentStory session.id)
    rcases run_bind_eq_error failed with unasked | ⟨pending, between, asked, failed⟩
    · exact .inl (clean_of_moves still unasked)
    · obtain rfl : between = before := (congrArg Prod.snd asked).symm.trans (still before)
      cases pending with
      | none => cases failed
      | some story => exact .inr ⟨session, story, current, Work.call_eq_ok asked, failed⟩

theorem clean_withSession {use : Session → Work σ Reply} (uses : ∀ session, Clean (use session)) :
    Clean (withSession store payload use) := by
  intro before error after failed
  rcases withSession_eq_error careful failed with same | ⟨session, -, failed⟩
  · exact same
  · exact uses session failed

theorem clean_withStory {use : Session → Story → Work σ Reply}
    (uses : ∀ session story, Clean (use session story)) :
    Clean (withStory store payload use) := by
  intro before error after failed
  rcases withStory_eq_error careful failed with same | ⟨session, story, -, -, failed⟩
  · exact same
  · exact uses session story failed

/-- A vote that has failed has changed nothing, or it was cast and the votes could not be read. -/
theorem failed_vote (failed : work store now payload .vote command before = (.error error, after)) :
    after = before ∨ ∃ cause, error = .store cause ∧
      Late store now payload command before cause after .vote := by
  rcases withStory_eq_error careful failed with same | ⟨session, story, current, voted, failed⟩
  · exact .inl same
  · rcases run_bind_eq_error failed with missing | ⟨args, between, required, casting⟩
    · exact .inl (clean_of_moves (requireArgs_still command _) missing)
    · obtain ⟨given, rfl⟩ := Work.requireArgs_eq_ok required
      rcases run_bind_eq_error casting with refused | ⟨receipt, later, -, told⟩
      · obtain ⟨cause, rfl, broken⟩ := Work.call_eq_error refused
        rcases careful.castVote_table_eq_error broken with same | ⟨tracked, ⟨vote, cast⟩, unread⟩
        · exact .inl same
        · exact .inr ⟨cause, rfl, .vote current voted given tracked cast unread⟩
      · cases told

/-- A session that could not be finished is as it was, or its stories could not be read. -/
theorem failed_finish
    (failed : work store now payload .finish command before = (.error error, after)) :
    after = before ∨ ∃ cause, error = .store cause ∧
      Late store now payload command before cause after .finish := by
  rcases withSession_eq_error careful failed with same | ⟨session, current, failed⟩
  · exact .inl same
  · rcases run_bind_eq_error failed with unfinished | ⟨_, between, finished, listing⟩
    · exact .inl (clean_call (careful.finishSession now session.id) unfinished)
    · rcases run_bind_eq_error listing with unlisted | ⟨stories, later, -, told⟩
      · obtain ⟨cause, rfl, unread⟩ := Work.call_eq_error unlisted
        obtain rfl : after = between :=
          (congrArg Prod.snd unread).symm.trans (careful.reads.storiesFor session.id between)
        exact .inr ⟨cause, rfl, .finish current (Work.call_eq_ok finished) unread⟩
      · cases told

/-- Every other action fails before it writes. -/
theorem clean_work {action : PokerAction} (not_vote : action ≠ .vote)
    (not_finish : action ≠ .finish) : Clean (work store now payload action command) := by
  cases action with
  | status => exact clean_of_moves (moves_status careful.reads now command)
  | reveal => exact clean_of_moves (moves_reveal careful.reads now command)
  | startSession =>
      unfold work
      dsimp only
      split
      · exact clean_pure _
      · exact (clean_call (careful.startSession now _ _ _)).bind_pure _
  | startStory =>
      apply clean_withSession careful
      intro session
      dsimp only
      split
      · exact clean_pure _
      · exact (clean_call (careful.startStory_table now session _)).bind_pure _
  | vote => exact absurd rfl not_vote
  | estimate =>
      apply clean_withStory careful
      intro _ story
      apply Clean.bind_of_moves (requireArgs_still command ["hours"])
      intro args
      exact (clean_call (careful.setEstimation story.id _)).bind_pure _
  | finish => exact absurd rfl not_finish

/-- An action that fails has changed nothing, or it has failed late. -/
theorem failed_work (action : PokerAction)
    (failed : work store now payload action command before = (.error error, after)) :
    after = before ∨ ∃ cause, error = .store cause ∧
      Late store now payload command before cause after action := by
  by_cases voting : action = .vote
  · subst voting
    exact failed_vote careful failed
  · by_cases finishing : action = .finish
    · subst finishing
      exact failed_finish careful failed
    · exact .inl (clean_work careful voting finishing failed)

end Failures

end PokerRobot

namespace Database

/-- The database with one more vote. -/
def withVote (db : Database) (now : Instant) (storyId : Int) (user : String) (value : Number) :
    Database :=
  { db with votes := db.votes.insert fun id =>
      ⟨id, storyId, user, Cell.ofNumber value, now.toText⟩ }

/-- The database with a session marked as finished. -/
def withFinished (db : Database) (now : Instant) (sessionId : Int) : Database :=
  { db with sessions := db.sessions.update (·.id == sessionId) fun row =>
      { row with finishedAt := some now.toText } }

/-- What a command has left behind that failed between its two halves: the vote is there and the
votes cannot be read, or the session is finished and its stories cannot be read. -/
inductive HalfDone (now : Instant) (payload : Payload) (before : Database) :
    StoreError → Database → Prop where
  | vote {session : Session} {story : Story} {args : List String} {value : Number}
      {cause : StoreError}
      (asked : (Command.parse payload.text).verb ∈ PokerAction.vote.verbs)
      (current : currentSession payload.channelName before = (.ok (some session), before))
      (voted : currentStory session.id before = (.ok (some story), before))
      (given : (Command.parse payload.text).requireArgs ["vote"] = .ok args)
      (parsed : parseNumber "vote" (args.headD "") = .ok value)
      (tracked : session.roster.isEmpty = false)
      (unread : (votesFor story.id (before.withVote now story.id payload.userName value)).1 =
        .error cause) :
      HalfDone now payload before cause (before.withVote now story.id payload.userName value)
  | finish {session : Session} {cause : StoreError}
      (asked : (Command.parse payload.text).verb ∈ PokerAction.finish.verbs)
      (current : currentSession payload.channelName before = (.ok (some session), before))
      (unread : (storiesFor session.id (before.withFinished now session.id)).1 = .error cause) :
      HalfDone now payload before cause (before.withFinished now session.id)

/-- A vote that was cast is one more row. -/
theorem castVote_eq_ok {now : Instant} {storyId : Int} {user value : String}
    {before after : Database} {vote : Vote}
    (cast : castVote now storyId user value before = (.ok vote, after)) :
    ∃ number, parseNumber "vote" value = .ok number ∧
      after = before.withVote now storyId user number := by
  have attempt : Attempt before
      (fun _ after => ∃ number, parseNumber "vote" value = .ok number ∧
        after = before.withVote now storyId user number)
      (castVote now storyId user value before) := by
    apply attempt_number
    intro number parsed
    apply attempt_statement
    split
    · exact ⟨number, parsed, rfl⟩
    · rfl
  exact attempt.of_ok cast

/-- A session that was finished is marked. -/
theorem finishSession_eq_ok {now : Instant} {sessionId : Int} {before after : Database}
    (finished : finishSession now sessionId before = (.ok (), after)) :
    after = before.withFinished now sessionId := by
  have attempt : Attempt before (fun _ after => after = before.withFinished now sessionId)
      (finishSession now sessionId before) := by
    simp only [finishSession]
    exact attempt_command rfl
  exact attempt.of_ok finished

/-- What fails late in the database is half done. -/
theorem halfDone_of_late {now : Instant} {payload : Payload} {before after : Database}
    {cause : StoreError} {action : PokerAction}
    (asked : (Command.parse payload.text).verb ∈ action.verbs)
    (late : PokerRobot.Late pokerBackend now payload (.parse payload.text) before cause after
      action) : HalfDone now payload before cause after := by
  cases late with
  | vote current voted given tracked cast unread =>
      obtain ⟨number, parsed, rfl⟩ := castVote_eq_ok cast
      exact .vote asked current voted given parsed tracked (congrArg Prod.fst unread)
  | finish current finished unread =>
      obtain rfl := finishSession_eq_ok finished
      exact .finish asked current (congrArg Prod.fst unread)

end Database

namespace Poker

/-- In memory nothing fails late. -/
theorem Memory.not_late {now : Instant} {payload : Payload} {command : Command}
    {before after : Memory} {cause : StoreError} {action : PokerAction} :
    ¬ PokerRobot.Late backend now payload command before cause after action := by
  intro late
  cases late with
  | vote current voted given tracked cast unread =>
      have working := working_of_castVote cast
      simp only [backend, votesFor, ask_of_working working] at unread
      cases unread
  | finish current finished unread =>
      have working := working_of_finishSession finished
      simp only [backend, storiesFor, ask_of_working working] at unread
      cases unread

end Poker

end ChatRobots
