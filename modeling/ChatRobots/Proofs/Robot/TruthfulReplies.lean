/-
Module: ChatRobots.Proofs.Robot.TruthfulReplies
Purpose: A reply of the poker robot tells whether something was written, and what.
Main exports: Lead, Lead.Apart, Lead.Announces, PokerRobot.Truthful,
  PokerRobot.truthful_work, PokerRobot.truthful_answerBy, Medium.reply_tells_truth
-/
import ChatRobots.Proofs.Robot.Reached
import ChatRobots.Proofs.Text.Beginnings

namespace ChatRobots

open Poker

/-!
Five texts of the poker robot confirm that something was written: each begins with words of its
own, and no other text begins with any of them.  A reply with such a lead stands for one row that
was written, the one that it tells of; a reply without one, unless it reports an error, stands for
a store that is exactly as it was.
-/

/-- What a reply confirms. -/
inductive Lead where
  | opened
  | voting
  | cast
  | tracked
  | finished
deriving DecidableEq

namespace Lead

/-- The words that the confirmation begins with. -/
def text : Lead → String
  | opened => "Started poker session for *"
  | voting => "We can now vote for *"
  | cast => "Vote cast for *"
  | tracked => "Tracked estimation of *"
  | finished => "Finished poker session for *"

/-- The leads are told apart. -/
theorem eq_of_begins {lead other : Lead} {text : String} (begins : Begins lead.text text)
    (begins' : Begins other.text text) : lead = other := by
  have comparable := begins.comparable begins'
  revert comparable
  cases lead <;> cases other <;> decide

/-- No text begins both with these words and with a lead. -/
def Apart (words : String) : Prop :=
  ∀ lead : Lead, ¬ Begins lead.text words ∧ ¬ Begins words lead.text

instance (words : String) : Decidable (Apart words) :=
  decidable_of_iff (∀ lead ∈ [opened, voting, cast, tracked, finished],
      ¬ Begins lead.text words ∧ ¬ Begins words lead.text)
    ⟨fun every lead => every lead (by cases lead <;> decide), fun apart lead _ => apart lead⟩

/-- A text that begins with other words has no lead. -/
theorem Apart.silent {words text : String} (apart : Apart words) (begins : Begins words text)
    (lead : Lead) : ¬ Begins lead.text text :=
  begins.not_begins (apart lead).symm

/-- What is written when the answer to a command has this lead, the store having been like this:
a new session of the channel, a new story of its current session, a new vote of the user on its
current story, the estimation of this story, or the mark that the session is finished. -/
inductive Announces {σ : Type} (store : Backend σ) (payload : Payload) (command : Command)
    (before : σ) : Lead → Change → Prop where
  | opened :
      Announces store payload command before .opened
        (.session payload.channelName (command.strFrom 0) (.ofCsv (command.param "users")))
  | voting {session : Session}
      (current : Table.currentSession store payload.channelName before =
        (.ok (some session), before)) :
      Announces store payload command before .voting (.story session.id (command.strFrom 0))
  | cast {session : Session} {story : Story} {args : List String} {value : Number}
      (current : Table.currentSession store payload.channelName before =
        (.ok (some session), before))
      (voted : Table.currentStory store session before = (.ok (some story), before))
      (given : command.requireArgs ["vote"] = .ok args)
      (parsed : parseNumber "vote" (args.headD "") = .ok value) :
      Announces store payload command before .cast (.vote story.id payload.userName value)
  | tracked {session : Session} {story : Story} {args : List String} {hours : Number}
      (current : Table.currentSession store payload.channelName before =
        (.ok (some session), before))
      (voted : Table.currentStory store session before = (.ok (some story), before))
      (given : command.requireArgs ["hours"] = .ok args)
      (parsed : parseNumber "estimation" (args.headD "") = .ok hours) :
      Announces store payload command before .tracked (.estimate story.id hours)
  | finished {session : Session}
      (current : Table.currentSession store payload.channelName before =
        (.ok (some session), before)) :
      Announces store payload command before .finished (.finish session.id)

end Lead

namespace PokerRobot

section Truth

variable {σ : Type} {store : Backend σ} (books : Bookkeeping store) (now : Instant)
  (payload : Payload) (command : Command)

/-- The text tells the truth about what has become of the store. -/
inductive Truthful (before after : σ) (text : String) : Prop where
  | told (same : after = before) (silent : ∀ lead : Lead, ¬ Begins lead.text text)
  | wrote {lead : Lead} {change : Change} (begins : Begins lead.text text)
      (announces : lead.Announces store payload command before change)
      (one : Ledger.OneRow books.hand now (books.ledger before) change (books.ledger after))

variable {books now payload command} {before after : σ} {reply : Reply}

section Consequences

variable {text : String} (truthful : Truthful books now payload command before after text)
include truthful

/-- The store has changed exactly if the text has a lead. -/
theorem Truthful.changed_iff : after ≠ before ↔ ∃ lead : Lead, Begins lead.text text := by
  cases truthful with
  | told same silent =>
      have led_false : ¬ ∃ lead : Lead, Begins lead.text text :=
        fun ⟨lead, begins⟩ => silent lead begins
      exact iff_of_false (· same) led_false
  | @wrote lead change begins announces one =>
      have changed : after ≠ before := fun same => one.ne (congrArg books.ledger same)
      exact iff_of_true changed ⟨lead, begins⟩

/-- What the lead stands for is the one row that was written. -/
theorem Truthful.oneRow {lead : Lead} (begins : Begins lead.text text) :
    ∃ change, lead.Announces store payload command before change ∧
      Ledger.OneRow books.hand now (books.ledger before) change (books.ledger after) := by
  cases truthful with
  | told same silent => exact absurd begins (silent lead)
  | @wrote other change begins' announces one =>
      obtain rfl := Lead.eq_of_begins begins begins'
      exact ⟨change, announces, one⟩

/-- Without a lead nothing was written. -/
theorem Truthful.unchanged (silent : ∀ lead : Lead, ¬ Begins lead.text text) : after = before := by
  cases truthful with
  | told same _ => exact same
  | @wrote lead _ begins _ _ => exact absurd begins (silent lead)

end Consequences

theorem same_of_currentSession (books : Bookkeeping store) {channel : String}
    {current : Except StoreError (Option Session)}
    (asked : Table.currentSession store channel before = (current, after)) : after = before := by
  have unchanged := books.currentSession channel before
  exact (congrArg Prod.snd asked).symm.trans unchanged

theorem same_of_currentStory (books : Bookkeeping store) {session : Session}
    {current : Except StoreError (Option Story)}
    (asked : Table.currentStory store session before = (current, after)) : after = before := by
  have unchanged := books.currentStory session.id before
  exact (congrArg Prod.snd asked).symm.trans unchanged

theorem apart_noActiveSession : Lead.Apart "No active poker session on *" := by
  decide

theorem begins_noSession (payload : Payload) :
    Begins "No active poker session on *" (noSession payload) :=
  ((begins_refl _).append _).append _

theorem silent_noSession (payload : Payload) (lead : Lead) :
    ¬ Begins lead.text (noSession payload) :=
  apart_noActiveSession.silent (begins_noSession payload) lead

theorem begins_noStory (payload : Payload) : Begins "No current story on *" (noStory payload) :=
  ((begins_refl _).append _).append _

theorem silent_noStory (payload : Payload) (lead : Lead) :
    ¬ Begins lead.text (noStory payload) := by
  have apart : Lead.Apart "No current story on *" := by decide
  exact apart.silent (begins_noStory payload) lead

theorem begins_statusText (status : SessionStatus) :
    Begins "We are playing a poker planning session called *" (statusText status) :=
  (((begins_refl _).append status.session.title).append "*").intercalate "\n" _

theorem begins_summary (session : Session) (stories : List Story) :
    Begins Lead.finished.text (summary session stories) :=
  ((begins_refl _).append _).append _ |>.append _

/-- The reply to a status begins in one of two ways. -/
theorem begins_statusReply (payload : Payload) (status : Option SessionStatus) :
    Begins "No active poker session on *" (statusReply payload status) ∨
      Begins "We are playing a poker planning session called *" (statusReply payload status) := by
  cases status with
  | none => exact .inl (((begins_refl _).append _).append _)
  | some status => exact .inr (begins_statusText status)

theorem begins_revealListing (story : Story) (votes : List Vote) :
    Begins "Votes for *" (revealListing story votes) :=
  (((begins_refl _).append _).append _).append _

theorem silent_statusReply (payload : Payload) (status : Option SessionStatus) (lead : Lead) :
    ¬ Begins lead.text (statusReply payload status) := by
  rcases begins_statusReply payload status with absent | playing
  · exact apart_noActiveSession.silent absent lead
  · have apart : Lead.Apart "We are playing a poker planning session called *" := by decide
    exact apart.silent playing lead

theorem silent_revealListing (story : Story) (votes : List Vote) (lead : Lead) :
    ¬ Begins lead.text (revealListing story votes) := by
  have apart : Lead.Apart "Votes for *" := by decide
  exact apart.silent (begins_revealListing story votes) lead

/-- Without a current session nothing is written. -/
theorem truthful_withSession {use : Session → Work σ Reply}
    (done : withSession store payload use before = (.ok reply, after))
    (uses : ∀ session, Table.currentSession store payload.channelName before =
        (.ok (some session), before) → use session before = (.ok reply, after) →
      Truthful books now payload command before after reply.first) :
    Truthful books now payload command before after reply.first := by
  rcases withSession_eq_ok done with ⟨asked, rfl⟩ | ⟨session, between, asked, used⟩
  · exact .told (same_of_currentSession books asked) (silent_noSession payload)
  · obtain rfl := same_of_currentSession books asked
    exact uses session asked used

/-- Without a current story nothing is written. -/
theorem truthful_withStory {use : Session → Story → Work σ Reply}
    (done : withStory store payload use before = (.ok reply, after))
    (uses : ∀ session story, Table.currentSession store payload.channelName before =
        (.ok (some session), before) →
      Table.currentStory store session before = (.ok (some story), before) →
      use session story before = (.ok reply, after) →
      Truthful books now payload command before after reply.first) :
    Truthful books now payload command before after reply.first := by
  rcases withStory_eq_ok done with ⟨asked, rfl⟩ | ⟨session, between, asked, searched, rfl⟩ |
    ⟨session, story, between, later, asked, searched, used⟩
  · exact .told (same_of_currentSession books asked) (silent_noSession payload)
  · obtain rfl := same_of_currentSession books asked
    exact .told (same_of_currentStory books searched) (silent_noStory payload)
  · obtain rfl := same_of_currentSession books asked
    obtain rfl := same_of_currentStory books searched
    exact uses session story asked searched used

theorem truthful_status
    (done : work store now payload .status command before = (.ok reply, after)) :
    Truthful books now payload command before after reply.first := by
  have same : (work store now payload .status command before).2 = before :=
    moves_status books.reads now command before
  rw [done] at same
  obtain ⟨status, between, -, said⟩ := run_bind_eq_ok done
  cases said
  exact .told same (silent_statusReply payload status)

theorem truthful_reveal
    (done : work store now payload .reveal command before = (.ok reply, after)) :
    Truthful books now payload command before after reply.first := by
  have same : (work store now payload .reveal command before).2 = before :=
    moves_reveal books.reads now command before
  rw [done] at same
  apply truthful_withStory done
  intro session story _ _ revealed
  obtain ⟨votes, between, -, said⟩ := run_bind_eq_ok revealed
  cases said
  exact .told same (silent_revealListing story votes)

theorem truthful_startSession (sound : books.Sound before)
    (done : work store now payload .startSession command before = (.ok reply, after)) :
    Truthful books now payload command before after reply.first := by
  unfold work at done
  by_cases untitled : command.strFrom 0 = ""
  · simp only [if_pos untitled] at done
    cases done
    have apart : Lead.Apart "You need to give the session a title: `/poker session <title>`" := by
      decide
    exact .told rfl (apart.silent (begins_refl _))
  · simp only [if_neg untitled] at done
    obtain ⟨session, between, started, said⟩ := run_bind_eq_ok done
    cases said
    obtain ⟨-, id, written⟩ := (books.startSession sound now payload.channelName
      (command.strFrom 0) (command.param "users")).of_ok (Work.call_eq_ok started)
    have begins := ((begins_refl Lead.opened.text).append session.title).append "*"
    refine .wrote begins .opened ?_
    rw [written.ledger_eq]
    exact Ledger.oneRow_session written.new

theorem truthful_startStory (sound : books.Sound before)
    (done : work store now payload .startStory command before = (.ok reply, after)) :
    Truthful books now payload command before after reply.first := by
  apply truthful_withSession done
  intro session current starting
  by_cases untitled : command.strFrom 0 = ""
  · simp only [if_pos untitled] at starting
    cases starting
    have apart : Lead.Apart "You need to give the story a title: `/poker story <title>`" := by
      decide
    exact .told rfl (apart.silent (begins_refl _))
  · simp only [if_neg untitled] at starting
    obtain ⟨start, between, started, said⟩ := run_bind_eq_ok starting
    cases said
    rcases Bookkeeping.startStory_ok sound (Work.call_eq_ok started) with
      ⟨pending, rfl, same⟩ | ⟨story, id, rfl, -, written⟩
    · have apart : Lead.Apart "Cannot start a new story until you estimate *" := by decide
      exact .told same (apart.silent (((begins_refl _).append _).append _))
    · have begins := ((begins_refl Lead.voting.text).append story.title).append "*"
      refine .wrote begins (.voting current) ?_
      rw [written.ledger_eq]
      exact Ledger.oneRow_story written.new

theorem truthful_vote (sound : books.Sound before)
    (done : work store now payload .vote command before = (.ok reply, after)) :
    Truthful books now payload command before after reply.first := by
  apply truthful_withStory done
  intro session story current voted casting
  obtain ⟨args, unchanged, asked, voting⟩ := run_bind_eq_ok casting
  obtain ⟨given, rfl⟩ := Work.requireArgs_eq_ok asked
  obtain ⟨receipt, between, cast, said⟩ := run_bind_eq_ok voting
  cases said
  obtain ⟨value, id, parsed, written⟩ := Bookkeeping.castVote_ok sound (Work.call_eq_ok cast)
  have begins := ((begins_refl Lead.cast.text).append payload.userName).append "*"
  refine .wrote begins (.cast current voted given parsed) ?_
  rw [written.ledger_eq]
  exact Ledger.oneRow_vote written.new

theorem truthful_estimate (sound : books.Sound before)
    (done : work store now payload .estimate command before = (.ok reply, after)) :
    Truthful books now payload command before after reply.first := by
  apply truthful_withStory done
  intro session story current voted tracking
  obtain ⟨args, unchanged, asked, estimating⟩ := run_bind_eq_ok tracking
  obtain ⟨given, rfl⟩ := Work.requireArgs_eq_ok asked
  obtain ⟨_, between, tracked, said⟩ := run_bind_eq_ok estimating
  cases said
  obtain ⟨hours, id, parsed, written⟩ := (books.setEstimation sound now story.id
    (args.headD "")).of_ok (Work.call_eq_ok tracked)
  obtain ⟨line, member, same, -, pending⟩ := books.pending (congrArg Prod.fst voted)
  have begins := (begins_refl Lead.tracked.text).append (args.headD "") |>.append "* hours for *"
    |>.append story.title |>.append "*"
  refine .wrote begins (.tracked current voted given parsed) ?_
  rw [written.ledger_eq, ← same]
  exact Ledger.oneRow_estimate (books.numbered sound) member pending hours

theorem truthful_finish (sound : books.Sound before)
    (done : work store now payload .finish command before = (.ok reply, after)) :
    Truthful books now payload command before after reply.first := by
  apply truthful_withSession done
  intro session current finishing
  obtain ⟨_, between, finished, listing⟩ := run_bind_eq_ok finishing
  obtain ⟨stories, later, listed, said⟩ := run_bind_eq_ok listing
  cases said
  -- The list of the stories is only read.
  obtain rfl : after = between :=
    (congrArg Prod.snd (Work.call_eq_ok listed)).symm.trans (books.storiesFor session.id between)
  obtain ⟨id, written⟩ := (books.finishSession sound now session.id).of_ok
    (Work.call_eq_ok finished)
  obtain ⟨line, member, same, -, unfinished⟩ := books.unfinished (congrArg Prod.fst current)
  refine .wrote (begins_summary session stories) (.finished current) ?_
  rw [written.ledger_eq, ← same]
  exact Ledger.oneRow_finish (books.numbered sound) member unfinished

/-- Every action that comes to a reply tells the truth in it. -/
theorem truthful_work (sound : books.Sound before) (action : PokerAction)
    (done : work store now payload action command before = (.ok reply, after)) :
    Truthful books now payload command before after reply.first := by
  cases action with
  | status => exact truthful_status done
  | startSession => exact truthful_startSession sound done
  | startStory => exact truthful_startStory sound done
  | vote => exact truthful_vote sound done
  | reveal => exact truthful_reveal done
  | estimate => exact truthful_estimate sound done
  | finish => exact truthful_finish sound done

theorem silent_guidance (teamDomain : Option String) (command : Command) (lead : Lead) :
    ¬ Begins lead.text ((router (messenger teamDomain)).guidance command) := by
  have listing : Begins "*Usage:* `/" (router (messenger teamDomain)).helpText :=
    (((begins_refl _).append _).append _).append _
  unfold Router.guidance
  split
  · have apart : Lead.Apart "You must enter a command.\n" := by decide
    exact apart.silent ((begins_refl _).append _) lead
  · split
    · have apart : Lead.Apart "*Usage:* `/" := by decide
      exact apart.silent listing lead
    · have apart : Lead.Apart "Invalid command *" := by decide
      exact apart.silent ((((begins_refl _).append _).append _).append _) lead

/-- The words that every report of an error begins with. -/
def errorLead : String :=
  "Error running Poker command: "

theorem begins_report (teamDomain : Option String) (error : RobotError) :
    Begins errorLead ((router (messenger teamDomain)).report error).first :=
  (begins_refl errorLead).append error.message

/-- Every payload that is not answered with an error is answered with the truth. -/
theorem truthful_answerBy {clock : Clock} (sound : books.Sound before) (teamDomain : Option String)
    (fine : ¬ Begins errorLead (answerBy store clock payload teamDomain before).1.first) :
    Truthful books clock.now payload (.parse payload.text) before
      (answerBy store clock payload teamDomain before).2
      (answerBy store clock payload teamDomain before).1.first := by
  unfold answerBy Router.answer at fine ⊢
  cases asked : (router (messenger teamDomain)).action? (.parse payload.text) with
  | none => exact .told rfl (silent_guidance teamDomain _)
  | some action =>
      simp only [asked] at fine ⊢
      generalize done : work store clock.now payload action (.parse payload.text) before = worked
        at fine ⊢
      obtain ⟨result, after⟩ := worked
      cases result with
      | ok reply => exact truthful_work sound action done
      | error error => exact absurd (begins_report teamDomain error) fine

end Truth

end PokerRobot

namespace Poker.Medium

/-- After any commands to a store that was empty at first, the first reply to a further command
that does not report an error tells the truth: it has a lead exactly if the store has changed;
what was written then is the one row that the lead stands for, and otherwise nothing. -/
theorem reply_tells_truth {medium : Medium} {before : Scene medium.State}
    (reached : medium.Reached before.stores) (working : before.refusal = none)
    (teamDomain : Option String) (clock : Clock) (payload : Payload) :
    let after := ((PokerRobot.robot medium.backend teamDomain).run clock payload before).2
    ∃ reply rest, after.messages = before.messages ++ reply :: rest ∧
      (¬ Begins PokerRobot.errorLead reply.text →
        (after.stores ≠ before.stores ↔ ∃ lead : Lead, Begins lead.text reply.text) ∧
        (∀ lead : Lead, Begins lead.text reply.text → ∃ change,
          lead.Announces medium.backend payload (.parse payload.text) before.stores change ∧
            Ledger.OneRow medium.books.hand clock.now (medium.books.ledger before.stores) change
              (medium.books.ledger after.stores)) ∧
        ((∀ lead : Lead, ¬ Begins lead.text reply.text) → after.stores = before.stores)) := by
  intro after
  have answered := PokerRobot.answered_run_robot medium.backend clock payload teamDomain before
  refine ⟨_, _, answered.delivered working, fun fine => ?_⟩
  have stores : after.stores = _ := answered.stores
  rw [stores]
  have truthful := PokerRobot.truthful_answerBy reached.sound teamDomain fine
  exact ⟨truthful.changed_iff, fun _ begins => truthful.oneRow begins, truthful.unchanged⟩

/-- A request for a first story. -/
def login : Payload :=
  ⟨"team", "C1", "eng", "U1", "ann", "poker", "story Login", "2"⟩

/-- A session was started in a database that was empty. -/
def opened : Scene database.State :=
  ((PokerRobot.robot database.backend none).run ⟨noon, noon.date⟩
    ⟨"team", "C1", "eng", "U1", "ann", "poker", "session Sprint users:ann", "1"⟩
    { stores := database.empty }).2

/-- The request is granted, and the one row that is new is a story of the current session. -/
theorem reply_to_login :
    let after := ((PokerRobot.robot database.backend none).run ⟨noon, noon.date⟩ login opened).2
    after.messages.map (·.text) =
        ["Started poker session for *Sprint*", "We can now vote for *Login*"] ∧
      after.stores ≠ opened.stores ∧
      ∃ change, Lead.voting.Announces database.backend login (.parse login.text) opened.stores
          change ∧
        Ledger.OneRow database.books.hand noon (database.books.ledger opened.stores) change
          (database.books.ledger after.stores) := by
  intro after
  have reached : database.Reached opened.stores :=
    .handled { stores := database.empty } .empty none _ _
  obtain ⟨reply, rest, delivered, truth⟩ :=
    reply_tells_truth reached rfl none ⟨noon, noon.date⟩ login
  have texts : after.messages.map (·.text) =
      ["Started poker session for *Sprint*", "We can now vote for *Login*"] := by
    decide +kernel
  have earlier : opened.messages.map (·.text) = ["Started poker session for *Sprint*"] := by
    decide +kernel
  have granted : reply.text = "We can now vote for *Login*" := by
    have both := texts
    rw [delivered, List.map_append, earlier, List.map_cons] at both
    exact (List.cons.inj (List.cons.inj both).2).1
  rw [granted] at truth
  obtain ⟨changed, tells, -⟩ := truth (by decide)
  exact ⟨texts, changed.2 ⟨.voting, by decide⟩, tells .voting (by decide)⟩

end Poker.Medium

end ChatRobots
