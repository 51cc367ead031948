/-
Module: ChatRobots.Proofs.Poker.Moves
Purpose: What every move of the game answers and writes, over any faithful store.
Main exports: Round.tells, Round.Writing, Faithful.schedule, Faithful.play_of_tells,
  Faithful.play_of_writing
-/
import ChatRobots.Poker.Round
import ChatRobots.Proofs.Poker.Faithful

namespace ChatRobots.Poker

/-!
A move either tells something and leaves everything as it is, or it makes one change and answers
with what was written.  Which of the two it is, and what it tells, can be read off the board and
the sessions and stories started so far: a round over a board is all that there is to know.
-/

namespace Move

/-- What the move writes, if it writes, is a new row. -/
def inserts : Move → Bool
  | startSession .. | startStory .. | castVote .. => true
  | _ => false

/-- The time that the new row bears. -/
def stamps (now : Instant) (move : Move) : List Instant :=
  if move.inserts then [now] else []

end Move

namespace Round

/-- What is told about the session at a place. -/
def aboutSession (round : Round Board) (place : Nat) (tell : Session → Option Answer) :
    Option Answer :=
  match round.sessions[place]? with
  | some session => tell session
  | none => some .noSuchPlace

/-- What is told about the story at a place. -/
def aboutStory (round : Round Board) (place : Nat) (tell : Story → Option Answer) :
    Option Answer :=
  match round.stories[place]? with
  | some story => tell story
  | none => some .noSuchPlace

/-- The answer to a text that is no number. -/
def refusal (field value : String) : Option Answer :=
  match parseNumber field value with
  | .error error => some (.failed error)
  | .ok _ => none

/-- What the move is answered with if it changes nothing. -/
def tells (round : Round Board) : Move → Option Answer
  | .startSession .. => none
  | .currentSession channel => some (.session? (round.store.currentSession channel))
  | .startStory place _ => round.aboutSession place fun session =>
      (round.store.currentStory session.id).map fun pending => .storyStart (.blocked pending)
  | .currentStory place => round.aboutSession place fun session =>
      some (.story? (round.store.currentStory session.id))
  | .castVote sessionPlace storyPlace _ value => round.aboutSession sessionPlace fun _ =>
      round.aboutStory storyPlace fun _ => refusal "vote" value
  | .reveal place => round.aboutStory place fun story =>
      some (.votes (round.store.votesOn story.id))
  | .setEstimation place hours => round.aboutStory place fun _ => refusal "estimation" hours
  | .finish place => round.aboutSession place fun _ => none
  | .stories place => round.aboutSession place fun session =>
      some (.stories (round.store.storiesOf session.id))
  | .estimated place => round.aboutSession place fun session =>
      some (.stories (round.store.estimatedOf session.id))
  | .status channel => some (.status (round.store.status channel))
  | .snapshot channel => some (.snapshot (round.store.snapshot channel))

/-- The time of the row that the move inserts, if it does insert one. -/
def stamps (round : Round Board) (now : Instant) (move : Move) : List Instant :=
  if (round.tells move).isSome then [] else move.stamps now

/-- The five ways in which a move writes.  Its answer depends on the id of the new row, on the
time, and on the board with the row in it. -/
inductive Writing (round : Round Board) :
    Move → Change → (Int → Instant → Board → Answer) → Prop where
  | session (channel title csv : String) :
      Writing round (.startSession channel title csv) (.session channel title (.ofCsv csv))
        fun id now _ => .session ⟨id, channel, title, .ofCsv csv, now, none⟩
  | story {place : Nat} {session : Session} (title : String)
      (known : round.sessions[place]? = some session)
      (free : round.store.currentStory session.id = none) :
      Writing round (.startStory place title) (.story session.id title)
        fun id now _ => .storyStart (.started ⟨id, session.id, title, none, now⟩)
  | vote {sessionPlace storyPlace : Nat} {session : Session} {story : Story} (user : String)
      {value : String} {number : Number}
      (knownSession : round.sessions[sessionPlace]? = some session)
      (knownStory : round.stories[storyPlace]? = some story)
      (parsed : parseNumber "vote" value = .ok number) :
      Writing round (.castVote sessionPlace storyPlace user value) (.vote story.id user number)
        fun id now board => .receipt ⟨⟨id, story.id, user, number, now⟩,
          .ofVotes session.roster (board.votesOn story.id)⟩
  | estimate {place : Nat} {story : Story} {hours : String} {number : Number}
      (known : round.stories[place]? = some story)
      (parsed : parseNumber "estimation" hours = .ok number) :
      Writing round (.setEstimation place hours) (.estimate story.id number) fun _ _ _ => .done
  | finish {place : Nat} {session : Session} (known : round.sessions[place]? = some session) :
      Writing round (.finish place) (.finish session.id) fun _ _ _ => .done

theorem aboutSession_eq_none {round : Round Board} {place : Nat} {tell : Session → Option Answer}
    (silent : round.aboutSession place tell = none) :
    ∃ session, round.sessions[place]? = some session ∧ tell session = none := by
  unfold aboutSession at silent
  split at silent
  · rename_i session known
    exact ⟨session, known, silent⟩
  · cases silent

theorem aboutStory_eq_none {round : Round Board} {place : Nat} {tell : Story → Option Answer}
    (silent : round.aboutStory place tell = none) :
    ∃ story, round.stories[place]? = some story ∧ tell story = none := by
  unfold aboutStory at silent
  split at silent
  · rename_i story known
    exact ⟨story, known, silent⟩
  · cases silent

theorem refusal_eq_none {field value : String} (silent : refusal field value = none) :
    ∃ number, parseNumber field value = .ok number := by
  unfold refusal at silent
  split at silent
  · cases silent
  · rename_i number parsed
    exact ⟨number, parsed⟩

theorem refusal_eq_some {field value : String} {answer : Answer}
    (refused : refusal field value = some answer) :
    ∃ error, parseNumber field value = .error error ∧ answer = .failed error := by
  unfold refusal at refused
  split at refused
  · rename_i error failed
    exact ⟨error, failed, (Option.some.inj refused).symm⟩
  · cases refused

/-- A move that tells nothing writes. -/
theorem writing_of_tells_eq_none {round : Round Board} {move : Move}
    (silent : round.tells move = none) : ∃ change answer, round.Writing move change answer := by
  cases move with
  | startSession channel title csv => exact ⟨_, _, .session channel title csv⟩
  | startStory place title =>
      obtain ⟨session, known, free⟩ := aboutSession_eq_none silent
      exact ⟨_, _, .story title known (Option.map_eq_none_iff.1 free)⟩
  | castVote sessionPlace storyPlace user value =>
      obtain ⟨session, knownSession, silent⟩ := aboutSession_eq_none silent
      obtain ⟨story, knownStory, silent⟩ := aboutStory_eq_none silent
      obtain ⟨number, parsed⟩ := refusal_eq_none silent
      exact ⟨_, _, .vote user knownSession knownStory parsed⟩
  | setEstimation place hours =>
      obtain ⟨story, known, silent⟩ := aboutStory_eq_none silent
      obtain ⟨number, parsed⟩ := refusal_eq_none silent
      exact ⟨_, _, .estimate known parsed⟩
  | finish place =>
      obtain ⟨session, known, _⟩ := aboutSession_eq_none silent
      exact ⟨_, _, .finish known⟩
  | currentSession | status | snapshot => cases silent
  | currentStory place | stories place | estimated place =>
      obtain ⟨_, _, silent⟩ := aboutSession_eq_none silent
      cases silent
  | reveal place =>
      obtain ⟨_, _, silent⟩ := aboutStory_eq_none silent
      cases silent

/-- A move that writes tells nothing. -/
theorem Writing.tells_eq_none {round : Round Board} {move : Move} {change : Change}
    {answer : Int → Instant → Board → Answer} (writing : round.Writing move change answer) :
    round.tells move = none := by
  cases writing with
  | session channel title csv => rfl
  | story title known free => simp [tells, aboutSession, known, free]
  | vote user knownSession knownStory parsed =>
      simp [tells, aboutSession, aboutStory, knownSession, knownStory, refusal, parsed]
  | estimate known parsed => simp [tells, aboutStory, known, refusal, parsed]
  | finish known => simp [tells, aboutSession, known]

end Round

namespace Faithful

variable {σ : Type} {store : Backend σ} (faithful : Faithful store)

/-- What there is to know of a round: the board, and what was started in it. -/
def view (round : Round σ) : Round Board :=
  ⟨faithful.board round.store, round.sessions, round.stories⟩

/-- The times at which these moves insert rows, one after another. -/
def schedule : List (Instant × Move) → Round σ → List Instant
  | [], _ => []
  | (now, move) :: rest, round =>
      (faithful.view round).stamps now move ++ schedule rest (round.play store now move).2

/-- Rows are inserted at some of the times at which moves are made. -/
theorem schedule_sublist (moves : List (Instant × Move)) (round : Round σ) :
    (faithful.schedule moves round).Sublist (moves.map (·.1)) := by
  induction moves generalizing round with
  | nil => exact .slnil
  | cons timed moves ih =>
      have first : ((faithful.view round).stamps timed.1 timed.2).Sublist [timed.1] := by
        unfold Round.stamps Move.stamps
        split
        · exact List.nil_sublist _
        · split
          · exact .refl _
          · exact List.nil_sublist _
      exact first.append (ih _)

variable {now : Instant} {times : List Instant} {round : Round σ} {move : Move}

theorem ask_of_ok {α : Type} {act : Act σ α} {a : α} {s : σ} (answer : α → Answer)
    (ok : act round.store = (.ok a, s)) :
    round.ask act answer = (answer a, { round with store := s }) := by
  rw [Round.ask, ok]

theorem ask_of_error {α : Type} {act : Act σ α} {error : StoreError} {s : σ} (answer : α → Answer)
    (failed : act round.store = (.error error, s)) :
    round.ask act answer = (.failed error, { round with store := s }) := by
  rw [Round.ask, failed]

theorem withSession_of_aboutSession {place : Nat} {tell : Session → Option Answer}
    {use : Session → Answer × Round σ} {answer : Answer}
    (told : (faithful.view round).aboutSession place tell = some answer)
    (uses : ∀ session, tell session = some answer → use session = (answer, round)) :
    round.withSession place use = (answer, round) := by
  simp only [Round.aboutSession, view] at told
  unfold Round.withSession
  split
  · rename_i session known
    rw [known] at told
    exact uses session told
  · rename_i unknown
    rw [unknown] at told
    cases told
    rfl

theorem withStory_of_aboutStory {place : Nat} {tell : Story → Option Answer}
    {use : Story → Answer × Round σ} {answer : Answer}
    (told : (faithful.view round).aboutStory place tell = some answer)
    (uses : ∀ story, tell story = some answer → use story = (answer, round)) :
    round.withStory place use = (answer, round) := by
  simp only [Round.aboutStory, view] at told
  unfold Round.withStory
  split
  · rename_i story known
    rw [known] at told
    exact uses story told
  · rename_i unknown
    rw [unknown] at told
    cases told
    rfl

/-- A move that tells something is answered so, and changes nothing. -/
theorem play_of_tells (sound : faithful.Sound times round.store) {answer : Answer}
    (told : (faithful.view round).tells move = some answer) :
    round.play store now move = (answer, round) := by
  cases move with
  | startSession channel title csv => cases told
  | currentSession channel =>
      cases told
      exact ask_of_ok _ (faithful.currentSession sound channel)
  | startStory place title =>
      apply faithful.withSession_of_aboutSession told
      intro session told
      obtain ⟨pending, waits, rfl⟩ := Option.map_eq_some_iff.1 told
      simp only [ask_of_ok _ (faithful.run_startStory_of_pending sound waits title)]
      rfl
  | currentStory place =>
      apply faithful.withSession_of_aboutSession told
      intro session told
      cases told
      exact ask_of_ok _ (faithful.currentStory sound session.id)
  | castVote sessionPlace storyPlace user value =>
      apply faithful.withSession_of_aboutSession told
      intro session told
      apply faithful.withStory_of_aboutStory told
      intro story told
      obtain ⟨error, failed, rfl⟩ := Round.refusal_eq_some told
      exact ask_of_error _ (faithful.run_castVote_error sound session story user failed)
  | reveal place =>
      apply faithful.withStory_of_aboutStory told
      intro story told
      cases told
      exact ask_of_ok _ (faithful.votesFor sound story.id)
  | setEstimation place hours =>
      apply faithful.withStory_of_aboutStory told
      intro story told
      obtain ⟨error, failed, rfl⟩ := Round.refusal_eq_some told
      exact ask_of_error _ (faithful.setEstimation_error sound story.id failed)
  | finish place =>
      apply faithful.withSession_of_aboutSession told
      intro session told
      cases told
  | stories place =>
      apply faithful.withSession_of_aboutSession told
      intro session told
      cases told
      exact ask_of_ok _ (faithful.storiesFor sound session.id)
  | estimated place =>
      apply faithful.withSession_of_aboutSession told
      intro session told
      cases told
      exact ask_of_ok _ (faithful.estimatedStoriesFor sound session.id)
  | status channel =>
      cases told
      exact ask_of_ok _ (faithful.run_status sound channel)
  | snapshot channel =>
      cases told
      exact ask_of_ok _ (faithful.run_snapshot sound channel)

/-- A move that writes makes its change and is answered with what was written. -/
theorem play_of_writing {change : Change} {answer : Int → Instant → Board → Answer}
    (writing : (faithful.view round).Writing move change answer)
    (sound : faithful.Sound (move.stamps now ++ times) round.store)
    (knownSessions : ∀ session ∈ round.sessions,
      session.id ∈ (faithful.board round.store).sessionIds)
    (knownStories : ∀ story ∈ round.stories, story.id ∈ (faithful.board round.store).storyIds) :
    ∃ id s, round.play store now move =
        Round.remember (answer id now (faithful.board s), { round with store := s }) ∧
      faithful.Wrote now times change id round.store s := by
  cases writing with
  | session channel title csv =>
      obtain ⟨id, s, ok, wrote⟩ := faithful.startSession sound channel title csv
      refine ⟨id, s, ?_, wrote⟩
      simp only [Round.play, Table.startSession, ask_of_ok _ ok]
  | story title known free =>
      obtain ⟨id, s, ok, wrote⟩ := faithful.run_startStory sound
        (knownSessions _ (List.mem_of_getElem? known)) free title
      refine ⟨id, s, ?_, wrote⟩
      simp only [view] at known
      simp only [Round.play, Round.withSession, known, ask_of_ok _ ok]
  | vote user knownSession knownStory parsed =>
      rename_i sessionPlace storyPlace session story value number
      obtain ⟨id, s, ok, wrote⟩ := faithful.run_castVote sound session
        (knownStories _ (List.mem_of_getElem? knownStory)) user parsed
      refine ⟨id, s, ?_, wrote⟩
      simp only [view] at knownSession knownStory
      simp only [Round.play, Round.withSession, Round.withStory, knownSession, knownStory,
        ask_of_ok _ ok]
      rfl
  | estimate known parsed =>
      rename_i place story hours number
      obtain ⟨id, s, ok, wrote⟩ := faithful.setEstimation sound now story.id parsed
      refine ⟨id, s, ?_, wrote⟩
      simp only [view] at known
      simp only [Round.play, Round.withStory, known, Table.setEstimation, ask_of_ok _ ok]
      rfl
  | finish known =>
      rename_i place session
      obtain ⟨id, s, ok, wrote⟩ := faithful.finishSession sound now session.id
      refine ⟨id, s, ?_, wrote⟩
      simp only [view] at known
      simp only [Round.play, Round.withSession, known, Table.finishSession, ask_of_ok _ ok]
      rfl

end Faithful

end ChatRobots.Poker
