/-
Module: ChatRobots.Proofs.Poker.Runs
Purpose: What every move preserves, and so what holds after every run of the game.
Main exports: Board.Exclusive, Round.Consistent, Round.Step, Round.Step.consistent, Round.Run,
  Faithful.run_playAll
-/
import ChatRobots.Proofs.Poker.Moves

namespace ChatRobots.Poker

/-!
A round is consistent when its board is well formed, when what was started in it is what is on the
board, and when at most the newest story of each session waits for an estimation.  The last is
nowhere checked as such: it holds because a story is only inserted where none waits, and because an
estimation is never taken back.
-/

namespace Board

/-- All stories of a session but possibly the newest are estimated. -/
def Exclusive (board : Board) : Prop :=
  ∀ sessionId, ∀ story ∈ (board.storiesOf sessionId).dropLast, story.estimation.isSome = true

/-- Nothing waits in a session without a current story. -/
theorem isSome_of_currentStory_eq_none {board : Board} {sessionId : Int}
    (free : board.currentStory sessionId = none) :
    ∀ story ∈ board.storiesOf sessionId, story.estimation.isSome = true := by
  intro story member
  obtain ⟨onBoard, own⟩ := List.mem_filter.1 member
  have nothing := List.filter_eq_nil_iff.1 (List.getLast?_eq_none_iff.1 free) story onBoard
  cases given : story.estimation with
  | none => simp [own, given] at nothing
  | some hours => rfl

/-- A change keeps the board exclusive, if a new story comes only where none waits. -/
theorem Exclusive.apply {board : Board} (exclusive : board.Exclusive) (keeping : Keeping)
    (now : Instant) (id : Int) {change : Change}
    (free : ∀ sessionId title, change = .story sessionId title →
      board.currentStory sessionId = none) :
    (board.apply keeping now id change).Exclusive := by
  intro sessionId story member
  cases change with
  | session channel title roster => exact exclusive sessionId story member
  | vote storyId user value => exact exclusive sessionId story member
  | finish finished => exact exclusive sessionId story member
  | story started title =>
      by_cases own : started = sessionId
      · subst own
        rw [storiesOf_apply_story, List.dropLast_concat] at member
        exact isSome_of_currentStory_eq_none (free started title rfl) story member
      · rw [storiesOf_apply_story_of_ne _ _ _ _ own] at member
        exact exclusive sessionId story member
  | estimate storyId hours =>
      have stories : (board.estimate storyId (keeping.number hours)).storiesOf sessionId =
          (board.storiesOf sessionId).map fun story =>
            if story.id = storyId then
              { story with estimation := some (keeping.number hours) } else story := by
        rw [storiesOf, storiesOf, estimate, List.filter_map]
        congr 2
        funext story
        simp only [Function.comp_apply]
        split <;> rfl
      rw [Board.apply, stories, ← List.map_dropLast] at member
      obtain ⟨before, old, rfl⟩ := List.mem_map.1 member
      split
      · rfl
      · exact exclusive sessionId before old

/-- The stories of a session are its estimated ones and then the current one, if there is one. -/
theorem Exclusive.storiesOf_eq {board : Board} (exclusive : board.Exclusive) (sessionId : Int) :
    board.storiesOf sessionId =
      board.estimatedOf sessionId ++ (board.currentStory sessionId).toList := by
  have earlier := exclusive sessionId
  rw [estimatedOf_eq_filter, currentStory_eq_getLast?]
  generalize board.storiesOf sessionId = stories at earlier ⊢
  rcases List.eq_nil_or_concat stories with rfl | ⟨others, newest, rfl⟩
  · rfl
  · rw [List.concat_eq_append, List.dropLast_concat] at earlier
    have some_others : others.filter (·.estimation.isSome) = others :=
      List.filter_eq_self.2 earlier
    have none_others : others.filter (·.estimation.isNone) = [] := by
      apply List.filter_eq_nil_iff.2
      intro story member
      have given := earlier story member
      cases h : story.estimation <;> simp_all
    rw [List.concat_eq_append, List.filter_append, List.filter_append, some_others, none_others]
    cases given : newest.estimation <;> simp [given]

end Board

namespace Round

/-- The sessions and stories started are the ones on the board, and at most the newest story of a
session waits. -/
structure Consistent (round : Round Board) : Prop where
  wellFormed : round.store.WellFormed
  exclusive : round.store.Exclusive
  sessionIds : round.sessions.map (·.id) = round.store.sessionIds
  storyIds : round.stories.map (·.id) = round.store.storyIds

theorem consistent_empty : (⟨{}, [], []⟩ : Round Board).Consistent :=
  ⟨Board.wellFormed_empty, fun _ _ member => absurd member List.not_mem_nil, rfl, rfl⟩

@[simp] theorem remember_fst {σ : Type} (played : Answer × Round σ) :
    (remember played).1 = played.1 := by
  unfold remember
  split <;> rfl

@[simp] theorem remember_store {σ : Type} (played : Answer × Round σ) :
    (remember played).2.store = played.2.store := by
  unfold remember
  split <;> rfl

/-- One move over a board: what it is answered with, and the round after it. -/
inductive Step (keeping : Keeping) (now : Instant) (round : Round Board) (move : Move) :
    Answer → Round Board → Prop where
  | told {answer : Answer} (told : round.tells move = some answer) :
      Step keeping now round move answer round
  | wrote {change : Change} {answer : Int → Instant → Board → Answer} {id : Int}
      (writing : round.Writing move change answer) (fresh : change.Fresh id round.store) :
      Step keeping now round move
        (answer id now (round.store.apply keeping now id change))
        (remember (answer id now (round.store.apply keeping now id change),
          { round with store := round.store.apply keeping now id change })).2

section Step

variable {keeping : Keeping} {now : Instant} {round after : Round Board} {move : Move}
  {answer : Answer}

theorem Consistent.session_mem (consistent : round.Consistent) :
    ∀ session ∈ round.sessions, session.id ∈ round.store.sessionIds :=
  fun _ member => consistent.sessionIds ▸ List.mem_map_of_mem member

theorem Consistent.story_mem (consistent : round.Consistent) :
    ∀ story ∈ round.stories, story.id ∈ round.store.storyIds :=
  fun _ member => consistent.storyIds ▸ List.mem_map_of_mem member

/-- What a move writes about is on the board. -/
theorem Writing.fits {change : Change} {answer : Int → Instant → Board → Answer}
    (writing : round.Writing move change answer) (consistent : round.Consistent) :
    change.Fits round.store := by
  cases writing with
  | session channel title csv => trivial
  | story title known free => exact consistent.session_mem _ (List.mem_of_getElem? known)
  | vote user knownSession knownStory parsed =>
      exact consistent.story_mem _ (List.mem_of_getElem? knownStory)
  | estimate known parsed => trivial
  | finish known => trivial

/-- A move starts a story only where none waits. -/
theorem Writing.free {change : Change} {answer : Int → Instant → Board → Answer}
    (writing : round.Writing move change answer) :
    ∀ sessionId title, change = .story sessionId title →
      round.store.currentStory sessionId = none := by
  rintro sessionId title rfl
  cases writing with
  | story title known free => exact free

/-- A vote on a story that is there keeps a round consistent. -/
theorem Consistent.vote (consistent : round.Consistent) (keeping : Keeping) (now : Instant)
    {id storyId : Int} {user : String} {value : Number} (known : storyId ∈ round.store.storyIds)
    (fresh : (Change.vote storyId user value).Fresh id round.store) :
    ({ round with store := round.store.apply keeping now id (.vote storyId user value) } :
      Round Board).Consistent where
  wellFormed := consistent.wellFormed.apply keeping now
    (show (Change.vote storyId user value).Fits round.store from known) fresh
  exclusive := consistent.exclusive.apply keeping now id fun _ _ equal => nomatch equal
  sessionIds := consistent.sessionIds
  storyIds := consistent.storyIds

/-- Every move keeps a round consistent. -/
theorem Step.consistent (step : Step keeping now round move answer after)
    (consistent : round.Consistent) : after.Consistent := by
  cases step with
  | told told => exact consistent
  | @wrote change answer id writing fresh =>
      have wellFormed := consistent.wellFormed.apply keeping now (writing.fits consistent) fresh
      have exclusive := consistent.exclusive.apply keeping now id writing.free
      cases writing with
      | session channel title csv =>
          refine ⟨wellFormed, exclusive, ?_, consistent.storyIds⟩
          simp [remember, consistent.sessionIds]
      | story title known free =>
          refine ⟨wellFormed, exclusive, consistent.sessionIds, ?_⟩
          simp [remember, consistent.storyIds]
      | vote user knownSession knownStory parsed =>
          exact consistent.vote keeping now
            (consistent.story_mem _ (List.mem_of_getElem? knownStory)) fresh
      | estimate known parsed =>
          refine ⟨wellFormed, exclusive, consistent.sessionIds, ?_⟩
          simp [remember, Board.apply, consistent.storyIds]
      | finish known =>
          refine ⟨wellFormed, exclusive, ?_, consistent.storyIds⟩
          simp [remember, Board.apply, consistent.sessionIds]

/-- What was started stays started. -/
theorem Step.prefix_stories (step : Step keeping now round move answer after) :
    round.stories <+: after.stories := by
  cases step with
  | told told => exact List.prefix_rfl
  | wrote writing fresh =>
      cases writing with
      | story title known free => exact List.prefix_append _ _
      | session | vote | estimate | finish => exact List.prefix_rfl

/-- A sequence of moves over a board, each with its answer. -/
inductive Run (keeping : Keeping) : Round Board → List (Move × Answer) → Round Board → Prop where
  | nil {round : Round Board} : Run keeping round [] round
  | cons {now : Instant} {round between after : Round Board} {move : Move} {answer : Answer}
      {rest : List (Move × Answer)} (step : Step keeping now round move answer between)
      (run : Run keeping between rest after) : Run keeping round ((move, answer) :: rest) after

theorem Run.consistent {keeping : Keeping} {round after : Round Board}
    {played : List (Move × Answer)} (run : Run keeping round played after)
    (consistent : round.Consistent) : after.Consistent := by
  induction run with
  | nil => exact consistent
  | cons step run ih => exact ih (step.consistent consistent)

theorem Run.prefix_stories {keeping : Keeping} {round after : Round Board}
    {played : List (Move × Answer)} (run : Run keeping round played after) :
    round.stories <+: after.stories := by
  induction run with
  | nil => exact List.prefix_rfl
  | cons step run ih => exact step.prefix_stories.trans ih

/-- What every move preserves holds after a run.  The property may speak of the moves made so far
and their answers. -/
theorem Run.induction {keeping : Keeping} (holds : List (Move × Answer) → Round Board → Prop)
    (preserved : ∀ past now round move answer after, holds past round → round.Consistent →
      Step keeping now round move answer after → holds (past ++ [(move, answer)]) after)
    {round after : Round Board} {played : List (Move × Answer)}
    (run : Run keeping round played after)
    {past : List (Move × Answer)} (start : holds past round) (consistent : round.Consistent) :
    holds (past ++ played) after := by
  induction run generalizing past with
  | nil =>
      rw [List.append_nil]
      exact start
  | cons step run ih =>
      have next := ih (preserved _ _ _ _ _ _ start consistent step) (step.consistent consistent)
      rwa [List.append_assoc] at next

end Step

/-- The moves with the answers that they got. -/
def history {σ : Type} (store : Backend σ) (round : Round σ)
    (moves : List (Instant × Move)) : List (Move × Answer) :=
  (moves.map (·.2)).zip (round.playAll store moves).1

theorem length_playAll {σ : Type} (store : Backend σ) (round : Round σ)
    (moves : List (Instant × Move)) : (round.playAll store moves).1.length = moves.length := by
  induction moves generalizing round with
  | nil => rfl
  | cons timed moves ih => simpa [playAll] using ih _

@[simp] theorem moves_history {σ : Type} (store : Backend σ) (round : Round σ)
    (moves : List (Instant × Move)) :
    (round.history store moves).map (·.1) = moves.map (·.2) := by
  refine List.map_fst_zip (Nat.le_of_eq ?_)
  rw [List.length_map, length_playAll]

@[simp] theorem answers_history {σ : Type} (store : Backend σ) (round : Round σ)
    (moves : List (Instant × Move)) :
    (round.history store moves).map (·.2) = (round.playAll store moves).1 := by
  refine List.map_snd_zip (Nat.le_of_eq ?_)
  rw [List.length_map, length_playAll]

section Continued

variable {σ : Type} (store : Backend σ) (round : Round σ) (moves more : List (Instant × Move))

theorem playAll_single (now : Instant) (move : Move) :
    round.playAll store [(now, move)] =
      ([(round.play store now move).1], (round.play store now move).2) :=
  rfl

/-- Moves after moves go on from the round that the first ones have led to. -/
theorem playAll_append :
    round.playAll store (moves ++ more) =
      ((round.playAll store moves).1 ++ ((round.playAll store moves).2.playAll store more).1,
        ((round.playAll store moves).2.playAll store more).2) := by
  induction moves generalizing round with
  | nil => rfl
  | cons timed moves ih => simp only [List.cons_append, playAll, ih]

theorem history_append :
    round.history store (moves ++ more) =
      round.history store moves ++ (round.playAll store moves).2.history store more := by
  unfold history
  rw [playAll_append, List.map_append, List.zip_append]
  rw [List.length_map, length_playAll]

end Continued

end Round

namespace Faithful

variable {σ : Type} {store : Backend σ} (faithful : Faithful store) {times : List Instant}
  {round : Round σ}

theorem schedule_append (moves more : List (Instant × Move)) (round : Round σ) :
    faithful.schedule (moves ++ more) round =
      faithful.schedule moves round ++ faithful.schedule more (round.playAll store moves).2 := by
  induction moves generalizing round with
  | nil => rfl
  | cons timed moves ih =>
      simp only [List.cons_append, schedule, Round.playAll, ih, List.append_assoc]

theorem view_remember (answer : Answer) (s : σ) :
    faithful.view (Round.remember (answer, { round with store := s })).2 =
      (Round.remember (answer, { faithful.view round with store := faithful.board s })).2 := by
  cases answer with
  | storyStart start => cases start <;> rfl
  | _ => rfl

/-- A move over a faithful store is a move over its board. -/
theorem step_play {now : Instant} {move : Move}
    (sound : faithful.Sound ((faithful.view round).stamps now move ++ times) round.store)
    (consistent : (faithful.view round).Consistent) :
    Round.Step faithful.keeping now (faithful.view round) move (round.play store now move).1
        (faithful.view (round.play store now move).2) ∧
      faithful.Sound times (round.play store now move).2.store := by
  unfold Round.stamps at sound
  cases told : (faithful.view round).tells move with
  | some answer =>
      rw [told] at sound
      rw [faithful.play_of_tells sound told]
      exact ⟨.told told, sound⟩
  | none =>
      rw [told] at sound
      obtain ⟨change, answer, writing⟩ := Round.writing_of_tells_eq_none told
      obtain ⟨id, s, played, wrote⟩ := faithful.play_of_writing writing sound
        consistent.session_mem consistent.story_mem
      have board_eq : faithful.board s =
          (faithful.view round).store.apply faithful.keeping now id change := wrote.board_eq
      rw [played, Round.remember_fst, faithful.view_remember, Round.remember_store, board_eq]
      exact ⟨.wrote writing wrote.fresh, wrote.sound⟩

/-- A run over a faithful store is a run over its board. -/
theorem run_playAll {moves : List (Instant × Move)}
    (sound : faithful.Sound (faithful.schedule moves round ++ times) round.store)
    (consistent : (faithful.view round).Consistent) :
    Round.Run faithful.keeping (faithful.view round) (round.history store moves)
        (faithful.view (round.playAll store moves).2) ∧
      faithful.Sound times (round.playAll store moves).2.store := by
  induction moves generalizing round with
  | nil => exact ⟨.nil, sound⟩
  | cons timed moves ih =>
      obtain ⟨now, move⟩ := timed
      rw [schedule, List.append_assoc] at sound
      obtain ⟨step, sound⟩ := faithful.step_play sound consistent
      obtain ⟨run, sound⟩ := ih sound (step.consistent consistent)
      exact ⟨.cons step run, sound⟩

end Faithful

end ChatRobots.Poker
