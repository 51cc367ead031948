/-
Module: ChatRobots.Proofs.Robot.ErrorReplies
Purpose: What an error reply of the poker robot says about the store.
Main exports: PokerRobot.Plain, PokerRobot.plain_work, PokerRobot.error_answerBy,
  Medium.unchanged_of_error_reply
-/
import ChatRobots.Proofs.Robot.ChannelIsolation
import ChatRobots.Proofs.Robot.LateFailures
import ChatRobots.Proofs.Robot.TruthfulReplies

namespace ChatRobots

open Poker

/-!
The texts of the poker robot are told apart by their first words: nothing that is said by a command
that comes to its end begins like the report of an error, whatever users have written into it.  So
an error reply stands for a command that has failed, and what was written by then is known.
-/

namespace PokerRobot

section Plain

/-- The text does not report an error. -/
def Plain (text : String) : Prop :=
  ¬ Begins errorLead text

theorem plain_of_begins {words text : String} (begins : Begins words text)
    (apart : ¬ Begins words errorLead ∧ ¬ Begins errorLead words) : Plain text :=
  begins.not_begins apart

/-- Nothing that is said reports an error. -/
def PlainReply (reply : Reply) : Prop :=
  ∀ text ∈ reply.texts, Plain text

theorem plainReply_one {text : String} (plain : Plain text) : PlainReply ⟨text, []⟩ := by
  intro other member
  rw [List.mem_singleton.1 member]
  exact plain

variable {payload : Payload}

theorem plain_noSession : PlainReply ⟨noSession payload, []⟩ :=
  plainReply_one (plain_of_begins (begins_noSession payload) (by decide))

theorem plain_noStory : PlainReply ⟨noStory payload, []⟩ :=
  plainReply_one (plain_of_begins (begins_noStory payload) (by decide))

theorem plain_statusReply (status : Option SessionStatus) : Plain (statusReply payload status) := by
  rcases begins_statusReply payload status with absent | playing
  · exact plain_of_begins absent (by decide)
  · exact plain_of_begins playing (by decide)

theorem plain_revealListing (story : Story) (votes : List Vote) :
    Plain (revealListing story votes) :=
  plain_of_begins (begins_revealListing story votes) (by decide)

/-- A vote is confirmed, and announced if it was the last one. -/
theorem plain_vote (user : String) (story : Story) (check : RosterCheck) :
    PlainReply ⟨"Vote cast for *" ++ user ++ "*", announcement story check⟩ := by
  have confirmed : Plain ("Vote cast for *" ++ user ++ "*") :=
    plain_of_begins (((begins_refl "Vote cast for *").append user).append "*") (by decide)
  cases check with
  | untracked | waiting => exact plainReply_one confirmed
  | complete votes =>
      have announced : Plain "Everyone voted, revealing votes." :=
        plain_of_begins (begins_refl _) (by decide)
      simp only [PlainReply, Reply.texts, announcement, List.forall_mem_cons]
      exact ⟨confirmed, announced, plain_revealListing story votes,
        fun _ member => absurd member List.not_mem_nil⟩

theorem plain_storyStartText (start : StoryStart) : Plain (storyStartText start) := by
  cases start with
  | started story =>
      have begins : Begins "We can now vote for *" (storyStartText (.started story)) :=
        ((begins_refl _).append _).append _
      exact plain_of_begins begins (by decide)
  | blocked pending =>
      have begins : Begins "Cannot start a new story until you estimate *"
          (storyStartText (.blocked pending)) := ((begins_refl _).append _).append _
      exact plain_of_begins begins (by decide)

variable {σ : Type} {store : Backend σ} {now : Instant}

/-- An action that comes to its end reports no error. -/
theorem plain_work (action : PokerAction) (command : Command) :
    (work store now payload action command).Yields PlainReply := by
  have untitled {text : String} (asks : Begins "You need to give the s" text) :
      (pure ⟨text, []⟩ : Work σ Reply).Yields PlainReply :=
    Work.yields_pure (plainReply_one (plain_of_begins asks (by decide)))
  cases action with
  | status =>
      apply Work.yields_bind
      intro status
      exact Work.yields_pure (plainReply_one (plain_statusReply status))
  | startSession =>
      unfold work
      dsimp only
      split
      · exact untitled (by decide)
      · apply Work.yields_bind
        intro session
        have begins := ((begins_refl "Started poker session for *").append session.title).append "*"
        exact Work.yields_pure (plainReply_one (plain_of_begins begins (by decide)))
  | startStory =>
      apply yields_withSession plain_noSession
      intro session
      dsimp only
      split
      · exact untitled (by decide)
      · apply Work.yields_bind
        intro start
        exact Work.yields_pure (plainReply_one (plain_storyStartText start))
  | vote =>
      apply yields_withStory plain_noSession plain_noStory
      intro session story
      apply Work.yields_bind
      intro args
      apply Work.yields_bind
      intro receipt
      exact Work.yields_pure (plain_vote _ story receipt.roster)
  | reveal =>
      apply yields_withStory plain_noSession plain_noStory
      intro _ story
      apply Work.yields_bind
      intro votes
      exact Work.yields_pure (plainReply_one (plain_revealListing story votes))
  | estimate =>
      apply yields_withStory plain_noSession plain_noStory
      intro _ story
      apply Work.yields_bind
      intro args
      apply Work.yields_bind
      intro _
      have begins := (begins_refl "Tracked estimation of *").append (args.headD "")
        |>.append "* hours for *" |>.append story.title |>.append "*"
      exact Work.yields_pure (plainReply_one (plain_of_begins begins (by decide)))
  | finish =>
      apply yields_withSession plain_noSession
      intro session
      apply Work.yields_bind
      intro _
      apply Work.yields_bind
      intro stories
      exact Work.yields_pure
        (plainReply_one (plain_of_begins (begins_summary session stories) (by decide)))

/-- A payload that is answered with an error has changed nothing, or it has failed late. -/
theorem error_answerBy (careful : store.Careful) (clock : Clock) (teamDomain : Option String)
    {before : σ} {text : String}
    (told : text ∈ (answerBy store clock payload teamDomain before).1.texts)
    (reports : Begins errorLead text) :
    (answerBy store clock payload teamDomain before).2 = before ∨ ∃ action cause,
      (Command.parse payload.text).verb ∈ action.verbs ∧ text = errorLead ++ cause.message ∧
        Late store clock.now payload (.parse payload.text) before cause
          (answerBy store clock payload teamDomain before).2 action := by
  unfold answerBy Router.answer at told ⊢
  cases asked : (router (messenger teamDomain)).action? (.parse payload.text) with
  | none => exact .inl rfl
  | some action =>
      simp only [asked] at told ⊢
      generalize done : work store clock.now payload action (.parse payload.text) before = worked
        at told ⊢
      obtain ⟨result, after⟩ := worked
      cases result with
      | ok reply => exact absurd reports (plain_work action _ done text told)
      | error error =>
          rcases failed_work careful action done with same | ⟨cause, rfl, late⟩
          · exact .inl same
          · have verb := (action?_eq_some_iff (messenger teamDomain) _ action).1 asked
            exact .inr ⟨action, cause, verb, List.mem_singleton.1 told, late⟩

end Plain

end PokerRobot

namespace Poker

namespace Medium

/-- What a command leaves behind that fails after it has written.  In memory none does. -/
def HalfDone (now : Instant) (payload : Payload) :
    (medium : Medium) → medium.State → StoreError → medium.State → Prop
  | memory, _, _, _ => False
  | database, before, cause, after => Database.HalfDone now payload before cause after

/-- Whatever the store holds, a command that is answered with an error has changed nothing, unless
it had written already when a later question to the database failed; then the one row that it has
written is what has changed. -/
theorem unchanged_of_error_reply {medium : Medium} {before : Scene medium.State}
    (working : before.refusal = none) (teamDomain : Option String) (clock : Clock)
    (payload : Payload) :
    let after := ((PokerRobot.robot medium.backend teamDomain).run clock payload before).2
    ∃ texts : List String,
      after.messages = before.messages ++
          texts.map ((PokerRobot.messenger teamDomain).message payload) ∧
        ∀ text ∈ texts, Begins PokerRobot.errorLead text →
          after.stores = before.stores ∨ ∃ cause, text = PokerRobot.errorLead ++ cause.message ∧
            medium.HalfDone clock.now payload before.stores cause after.stores := by
  intro after
  have answered := PokerRobot.answered_run_robot medium.backend clock payload teamDomain before
  refine ⟨_, answered.delivered working, fun text told reports => ?_⟩
  have stores : after.stores = _ := answered.stores
  rw [stores]
  rcases PokerRobot.error_answerBy medium.careful clock teamDomain told reports with
    same | ⟨action, cause, asked, worded, late⟩
  · exact .inl same
  · cases medium with
    | memory => exact absurd late Memory.not_late
    | database => exact .inr ⟨cause, worded, Database.halfDone_of_late asked late⟩

/-- A session has a story whose time cannot be read. -/
def unreadableStory : Scene Database where
  stores := {
    sessions := ⟨[⟨1, "eng", "Sprint", "", noon.toText, none⟩], 1⟩
    stories := ⟨[⟨1, 1, "Login", none, "junk"⟩], 1⟩ }

/-- The scene after the wish to finish this session. -/
def afterFinish : Scene Database :=
  ((PokerRobot.robot database.backend none).run ⟨noon, noon.date⟩ (ask "eng" "ann" "finish").2
    unreadableStory).2

theorem texts_afterFinish :
    afterFinish.messages.map (·.text) = ["Error running Poker command: storage failure: " ++
      "decode error: created_at: premature end of input"] := by
  decide +kernel

theorem finishedAt_afterFinish :
    afterFinish.stores.sessions.rows.map (·.finishedAt) = [some noon.toText] := by
  decide +kernel

/-- The wish is answered with an error, and the session is finished. -/
theorem finished_despite_error :
    unreadableStory.refusal = none ∧
      afterFinish.messages.map (·.text) = ["Error running Poker command: storage failure: " ++
        "decode error: created_at: premature end of input"] ∧
      unreadableStory.stores.sessions.rows.map (·.finishedAt) = [none] ∧
      afterFinish.stores.sessions.rows.map (·.finishedAt) = [some noon.toText] :=
  ⟨rfl, texts_afterFinish, rfl, finishedAt_afterFinish⟩

/-- The finished session is what was left half done. -/
theorem finish_half_done :
    ∃ cause, afterFinish.messages.map (·.text) = [PokerRobot.errorLead ++ cause.message] ∧
      Database.HalfDone noon (ask "eng" "ann" "finish").2 unreadableStory.stores cause
        afterFinish.stores := by
  obtain ⟨texts, delivered, kept⟩ := @unchanged_of_error_reply database unreadableStory rfl none
    ⟨noon, noon.date⟩ (ask "eng" "ann" "finish").2
  have told : afterFinish.messages.map (·.text) = texts := by
    have all : afterFinish.messages = _ := delivered
    rw [all, List.map_append, List.map_map]
    exact List.map_id _
  obtain rfl := told.symm.trans texts_afterFinish
  rcases kept _ (List.mem_singleton_self _) (by decide) with same | ⟨cause, worded, half⟩
  · have unfinished : afterFinish.stores.sessions.rows.map (·.finishedAt) = [none] :=
      congrArg (fun db : Database => db.sessions.rows.map (·.finishedAt)) same
    exact nomatch finishedAt_afterFinish.symm.trans unfinished
  · exact ⟨cause, worded ▸ told, half⟩

end Medium

end Poker

end ChatRobots
