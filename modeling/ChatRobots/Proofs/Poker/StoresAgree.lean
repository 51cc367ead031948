/-
Module: ChatRobots.Proofs.Poker.StoresAgree
Purpose: The two kinds of store answer every run of the game alike.
Main exports: Answer.Alike, Round.Alike, Round.Run.alike, Medium.database_answers_as_memory
-/
import ChatRobots.Proofs.Poker.Alike
import ChatRobots.Proofs.Poker.Medium

namespace ChatRobots.Poker

/-!
Two rounds are alike when their boards are and when what was started in them is.  The same move in
both is then answered alike, whether it tells something or writes, and leaves rounds that are alike
again, under the names that were there and possibly one more pair.
-/

inductive StoryStart.Alike (names : Names) (same : Number → Number → Prop) :
    StoryStart → StoryStart → Prop where
  | started {story story' : Story} (alike : story.Alike names same story') :
      Alike names same (.started story) (.started story')
  | blocked {pending pending' : Story} (alike : pending.Alike names same pending') :
      Alike names same (.blocked pending) (.blocked pending')

inductive RosterCheck.Alike (names : Names) (same : Number → Number → Prop) :
    RosterCheck → RosterCheck → Prop where
  | untracked : Alike names same .untracked .untracked
  | waiting (outstanding : List String) :
      Alike names same (.waiting outstanding) (.waiting outstanding)
  | complete {votes votes' : List Vote}
      (alike : List.Forall₂ (Vote.Alike names same) votes votes') :
      Alike names same (.complete votes) (.complete votes')

/-- The vote that was just cast has the number that was read; it was not read back. -/
structure VoteReceipt.Alike (names : Names) (same : Number → Number → Prop)
    (receipt receipt' : VoteReceipt) : Prop where
  vote : receipt.vote.Alike names Eq receipt'.vote
  roster : receipt.roster.Alike names same receipt'.roster

/-- Answers that differ in ids and times at most, and in hours as far as allowed. -/
inductive Answer.Alike (names : Names) (same : Number → Number → Prop) :
    Answer → Answer → Prop where
  | session {session session' : Session} (alike : session.Alike names session') :
      Alike names same (.session session) (.session session')
  | session? {session session' : Option Session}
      (alike : Option.Rel (Session.Alike names) session session') :
      Alike names same (.session? session) (.session? session')
  | storyStart {start start' : StoryStart} (alike : start.Alike names same start') :
      Alike names same (.storyStart start) (.storyStart start')
  | story? {story story' : Option Story}
      (alike : Option.Rel (Story.Alike names same) story story') :
      Alike names same (.story? story) (.story? story')
  | receipt {receipt receipt' : VoteReceipt} (alike : receipt.Alike names same receipt') :
      Alike names same (.receipt receipt) (.receipt receipt')
  | votes {votes votes' : List Vote} (alike : List.Forall₂ (Vote.Alike names same) votes votes') :
      Alike names same (.votes votes) (.votes votes')
  | done : Alike names same .done .done
  | stories {stories stories' : List Story}
      (alike : List.Forall₂ (Story.Alike names same) stories stories') :
      Alike names same (.stories stories) (.stories stories')
  | status {status status' : Option SessionStatus}
      (alike : Option.Rel (SessionStatus.Alike names same) status status') :
      Alike names same (.status status) (.status status')
  | snapshot {snapshot snapshot' : Option Snapshot}
      (alike : Option.Rel (Snapshot.Alike names same) snapshot snapshot') :
      Alike names same (.snapshot snapshot) (.snapshot snapshot')
  | failed (error : StoreError) : Alike names same (.failed error) (.failed error)
  | noSuchPlace : Alike names same .noSuchPlace .noSuchPlace

section More

variable {names more : Names} {same : Number → Number → Prop}

theorem votes_mono {votes votes' : List Vote}
    (alike : List.Forall₂ (Vote.Alike names same) votes votes') (within : names.Within more) :
    List.Forall₂ (Vote.Alike more same) votes votes' :=
  alike.imp fun _ _ related => related.mono within

theorem stories_mono {stories stories' : List Story}
    (alike : List.Forall₂ (Story.Alike names same) stories stories')
    (within : names.Within more) : List.Forall₂ (Story.Alike more same) stories stories' :=
  alike.imp fun _ _ related => related.mono within

theorem StoryStart.Alike.mono {start start' : StoryStart} (alike : start.Alike names same start')
    (within : names.Within more) : start.Alike more same start' := by
  cases alike with
  | started alike => exact .started (alike.mono within)
  | blocked alike => exact .blocked (alike.mono within)

theorem RosterCheck.Alike.mono {check check' : RosterCheck} (alike : check.Alike names same check')
    (within : names.Within more) : check.Alike more same check' := by
  cases alike with
  | untracked => exact .untracked
  | waiting outstanding => exact .waiting outstanding
  | complete votes => exact .complete (votes_mono votes within)

/-- Answers stay alike under more names. -/
theorem Answer.Alike.mono {answer answer' : Answer} (alike : answer.Alike names same answer')
    (within : names.Within more) : answer.Alike more same answer' := by
  cases alike with
  | session alike => exact .session (alike.mono within)
  | session? alike => exact .session? (rel_mono (fun _ _ related => related.mono within) alike)
  | storyStart alike => exact .storyStart (alike.mono within)
  | story? alike => exact .story? (rel_mono (fun _ _ related => related.mono within) alike)
  | receipt alike => exact .receipt ⟨alike.vote.mono within, alike.roster.mono within⟩
  | votes alike => exact .votes (votes_mono alike within)
  | done => exact .done
  | stories alike => exact .stories (stories_mono alike within)
  | status alike =>
      refine .status (rel_mono (fun status status' related => ?_) alike)
      refine ⟨related.session.mono within, related.estimatedCount, ?_⟩
      refine rel_mono (fun current current' shown => ?_) related.current
      exact ⟨shown.story.mono within, votes_mono shown.votes within⟩
  | snapshot alike =>
      refine .snapshot (rel_mono (fun snapshot snapshot' related => ?_) alike)
      exact ⟨related.session.mono within, stories_mono related.stories within⟩
  | failed error => exact .failed error
  | noSuchPlace => exact .noSuchPlace

end More

/-- The roster stands the same with votes that are alike. -/
theorem RosterCheck.ofVotes_alike {names : Names} {same : Number → Number → Prop}
    {votes votes' : List Vote} (alike : List.Forall₂ (Vote.Alike names same) votes votes')
    (roster : Roster) : (ofVotes roster votes).Alike names same (ofVotes roster votes') := by
  unfold ofVotes
  rw [users_eq_of_alike alike]
  split
  · exact .untracked
  · split
    · exact .complete alike
    · exact .waiting _

namespace Round

/-- Rounds with boards that are alike, and alike sessions and stories at the same places. -/
structure Alike (names : Names) (same : Number → Number → Prop) (round round' : Round Board) :
    Prop where
  board : round.store.Alike names same round'.store
  sessions : List.Forall₂ (Session.Alike names) round.sessions round'.sessions
  stories : List.Forall₂ (Story.Alike names same) round.stories round'.stories

theorem alike_empty (same : Number → Number → Prop) : Alike {} same ⟨{}, [], []⟩ ⟨{}, [], []⟩ :=
  ⟨.empty same, .nil, .nil⟩

section Alike

variable {names : Names} {same : Number → Number → Prop} {round round' : Round Board}

theorem aboutSession_alike (alike : Alike names same round round') (place : Nat)
    {tell tell' : Session → Option Answer}
    (tells : ∀ session session', session.Alike names session' →
      Option.Rel (Answer.Alike names same) (tell session) (tell' session')) :
    Option.Rel (Answer.Alike names same) (round.aboutSession place tell)
      (round'.aboutSession place tell') := by
  have there := getElem?_alike alike.sessions place
  unfold aboutSession
  generalize round.sessions[place]? = known at there ⊢
  generalize round'.sessions[place]? = known' at there ⊢
  cases there with
  | none => exact .some .noSuchPlace
  | some related => exact tells _ _ related

theorem aboutStory_alike (alike : Alike names same round round') (place : Nat)
    {tell tell' : Story → Option Answer}
    (tells : ∀ story story', story.Alike names same story' →
      Option.Rel (Answer.Alike names same) (tell story) (tell' story')) :
    Option.Rel (Answer.Alike names same) (round.aboutStory place tell)
      (round'.aboutStory place tell') := by
  have there := getElem?_alike alike.stories place
  unfold aboutStory
  generalize round.stories[place]? = known at there ⊢
  generalize round'.stories[place]? = known' at there ⊢
  cases there with
  | none => exact .some .noSuchPlace
  | some related => exact tells _ _ related

theorem refusal_alike (field value : String) :
    Option.Rel (Answer.Alike names same) (refusal field value) (refusal field value) := by
  unfold refusal
  split
  · exact .some (.failed _)
  · exact .none

/-- The same move tells something alike in both rounds, or in neither. -/
theorem tells_alike (alike : Alike names same round round') (move : Move) :
    Option.Rel (Answer.Alike names same) (round.tells move) (round'.tells move) := by
  cases move with
  | startSession channel title csv => exact .none
  | currentSession channel => exact .some (.session? (alike.board.currentSession channel))
  | startStory place title =>
      apply aboutSession_alike alike place
      intro session session' related
      apply map_alike (alike.board.currentStory related.id)
      intro pending pending' waits
      exact .storyStart (.blocked waits)
  | currentStory place =>
      apply aboutSession_alike alike place
      intro session session' related
      exact .some (.story? (alike.board.currentStory related.id))
  | castVote sessionPlace storyPlace user value =>
      apply aboutSession_alike alike sessionPlace
      intro session session' related
      apply aboutStory_alike alike storyPlace
      intro story story' related
      exact refusal_alike "vote" value
  | reveal place =>
      apply aboutStory_alike alike place
      intro story story' related
      exact .some (.votes (alike.board.votesOn related.id))
  | setEstimation place hours =>
      apply aboutStory_alike alike place
      intro story story' related
      exact refusal_alike "estimation" hours
  | finish place => exact aboutSession_alike alike place fun session session' related => .none
  | stories place =>
      apply aboutSession_alike alike place
      intro session session' related
      exact .some (.stories (alike.board.storiesOf related.id))
  | estimated place =>
      apply aboutSession_alike alike place
      intro session session' related
      exact .some (.stories (alike.board.estimatedOf related.id))
  | status channel => exact .some (.status (alike.board.status channel))
  | snapshot channel => exact .some (.snapshot (alike.board.snapshot channel))

theorem Alike.session_at (alike : Alike names same round round') {place : Nat}
    {session session' : Session} (known : round.sessions[place]? = some session)
    (known' : round'.sessions[place]? = some session') : session.Alike names session' := by
  have there := getElem?_alike alike.sessions place
  rw [known, known'] at there
  cases there with
  | some related => exact related

theorem Alike.story_at (alike : Alike names same round round') {place : Nat} {story story' : Story}
    (known : round.stories[place]? = some story)
    (known' : round'.stories[place]? = some story') : story.Alike names same story' := by
  have there := getElem?_alike alike.stories place
  rw [known, known'] at there
  cases there with
  | some related => exact related

/-- A move that writes makes changes that are alike, and is answered alike about boards that are
alike under the names with the new row among them. -/
theorem writing_alike (alike : Alike names same round round') {move : Move}
    {change change' : Change} {answer answer' : Int → Instant → Board → Answer}
    (writing : round.Writing move change answer)
    (writing' : round'.Writing move change' answer') :
    change.Alike names change' ∧ ∀ id id' now now' board board',
      Board.Alike (names.extend id id' change) same board board' →
      (answer id now board).Alike (names.extend id id' change) same (answer' id' now' board') := by
  cases writing with
  | session channel title csv =>
      cases writing' with
      | session =>
          refine ⟨.session channel title _, fun id id' now now' board board' _ => .session ?_⟩
          exact ⟨List.mem_append_right _ (List.mem_singleton_self _), rfl, rfl, rfl, rfl⟩
  | story title known free =>
      cases writing' with
      | story _ known' free' =>
          have about := (alike.session_at known known').id
          refine ⟨.story about title, fun id id' now now' board board' _ => ?_⟩
          refine .storyStart (.started ⟨?_, about, rfl, .none⟩)
          exact List.mem_append_right _ (List.mem_singleton_self _)
  | vote user knownSession knownStory parsed =>
      cases writing' with
      | vote _ knownSession' knownStory' parsed' =>
          have roster := (alike.session_at knownSession knownSession').roster
          have about := (alike.story_at knownStory knownStory').id
          cases parsed.symm.trans parsed'
          refine ⟨.vote about user _, fun id id' now now' board board' boards => ?_⟩
          refine .receipt ⟨⟨?_, about, rfl, rfl⟩, ?_⟩
          · exact List.mem_append_right _ (List.mem_singleton_self _)
          · exact roster ▸ RosterCheck.ofVotes_alike (boards.votesOn about) _
  | estimate known parsed =>
      cases writing' with
      | estimate known' parsed' =>
          cases parsed.symm.trans parsed'
          exact ⟨.estimate (alike.story_at known known').id _, fun _ _ _ _ _ _ _ => .done⟩
  | finish known =>
      cases writing' with
      | finish known' =>
          exact ⟨.finish (alike.session_at known known').id, fun _ _ _ _ _ _ _ => .done⟩

/-- What is remembered of answers that are alike is alike. -/
theorem remember_alike {answer answer' : Answer} (alike : Alike names same round round')
    (answers : answer.Alike names same answer') :
    Alike names same (remember (answer, round)).2 (remember (answer', round')).2 := by
  cases answers with
  | session related =>
      exact ⟨alike.board, List.rel_append alike.sessions (.cons related .nil), alike.stories⟩
  | storyStart start =>
      cases start with
      | started related =>
          exact ⟨alike.board, alike.sessions, List.rel_append alike.stories (.cons related .nil)⟩
      | blocked related => exact alike
  | session? | story? | receipt | votes | done | stories | status | snapshot | failed
  | noSuchPlace => exact alike

end Alike

/-- The same move in two rounds that are alike, each at its own time and over its own kind of
board. -/
theorem Step.alike {names : Names} {same : Number → Number → Prop} {round round' after after' :
    Round Board} {keeping keeping' : Keeping} {now now' : Instant} {move : Move}
    {answer answer' : Answer} (alike : Alike names same round round')
    (numbers : ∀ number, same (keeping.number number) (keeping'.number number))
    (step : Step keeping now round move answer after)
    (step' : Step keeping' now' round' move answer' after') :
    ∃ more, names.Within more ∧ answer.Alike more same answer' ∧
      Alike more same after after' := by
  have tells := tells_alike alike move
  cases step with
  | told told =>
      cases step' with
      | told told' =>
          rw [told, told'] at tells
          cases tells with
          | some related => exact ⟨names, .refl names, related, alike⟩
      | wrote writing' fresh' =>
          rw [told, writing'.tells_eq_none] at tells
          cases tells
  | @wrote change answer id writing fresh =>
      cases step' with
      | told told' =>
          rw [writing.tells_eq_none, told'] at tells
          cases tells
      | @wrote change' answer' id' writing' fresh' =>
          obtain ⟨changes, answers⟩ := writing_alike alike writing writing'
          have within := names.within_extend id id' change
          have boards := alike.board.apply numbers now now' changes fresh fresh'
          have answered := answers id id' now now' _ _ boards
          refine ⟨_, within, answered, remember_alike ⟨boards, ?_, ?_⟩ answered⟩
          · exact alike.sessions.imp fun _ _ related => Session.Alike.mono related within
          · exact stories_mono alike.stories within

/-- The same moves in two rounds that are alike. -/
theorem Run.alike {names : Names} {same : Number → Number → Prop} {round round' after after' :
    Round Board} {keeping keeping' : Keeping} {played played' : List (Move × Answer)}
    (alike : Alike names same round round')
    (numbers : ∀ number, same (keeping.number number) (keeping'.number number))
    (run : Run keeping round played after) (run' : Run keeping' round' played' after')
    (moves : played.map (·.1) = played'.map (·.1)) :
    ∃ more, names.Within more ∧
      List.Forall₂ (Answer.Alike more same) (played.map (·.2)) (played'.map (·.2)) ∧
      Alike more same after after' := by
  induction run generalizing names round' played' with
  | nil =>
      obtain rfl : played' = [] := by simpa using moves.symm
      cases run' with
      | nil => exact ⟨names, .refl names, .nil, alike⟩
  | cons step run ih =>
      cases run' with
      | nil => cases moves
      | cons step' run' =>
          obtain ⟨rfl, rest⟩ := List.cons.inj moves
          obtain ⟨some_, within, answered, alike⟩ := step.alike alike numbers step'
          obtain ⟨more, within', answers, alike⟩ := ih alike run' rest
          exact ⟨more, within.trans within', .cons (answered.mono within') answers, alike⟩

end Round

/-- What the database keeps of a number is the number, but a zero has no sign. -/
def SameHours (number kept : Number) : Prop :=
  kept = number.unsignedZero

namespace Medium

/-- The same moves are answered by the database as they are in memory, in every run and at every
step, errors included.  The two runs need not take place at the same times.  The ids are others,
but they come in the same order, kind by kind. -/
theorem database_answers_as_memory {moves moves' : List (Instant × Move)}
    (same : moves.map (·.2) = moves'.map (·.2)) (steady : Steady (database.insertions moves')) :
    ∃ names : Names, names.Ordered ∧
      List.Forall₂ (Answer.Alike names SameHours) (memory.answers moves)
        (database.answers moves') := by
  have inMemory := (run_after_nil (show memory.Admits (memory.insertions moves) from trivial)).1
  have inDatabase :=
    (run_after_nil (show database.Admits (database.insertions moves') from steady)).1
  have numbers : ∀ number, SameHours (memory.faithful.keeping.number number)
      (database.faithful.keeping.number number) := fun _ => rfl
  have played : (memory.history moves).map (·.1) = (database.history moves').map (·.1) := by
    rw [history, history, Round.moves_history, Round.moves_history, same]
  obtain ⟨names, _, answers, alike⟩ := inMemory.alike (Round.alike_empty SameHours)
    numbers inDatabase played
  refine ⟨names, alike.board.ordered, ?_⟩
  rw [history, history, Round.answers_history, Round.answers_history] at answers
  exact answers

/-- The short game is one of these runs. -/
theorem database_answers_sprint_as_memory :
    ∃ names : Names, names.Ordered ∧
      List.Forall₂ (Answer.Alike names SameHours) (memory.answers sprint)
        (database.answers sprint) :=
  have steady : Steady (database.insertions sprint) := database.admits_of_clock (by decide)
  database_answers_as_memory rfl steady

end Medium

end ChatRobots.Poker
