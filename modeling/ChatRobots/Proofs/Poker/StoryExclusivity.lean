/-
Module: ChatRobots.Proofs.Poker.StoryExclusivity
Purpose: After every run, at most the newest story of a session waits for its estimation.
Main exports: Medium.stories_eq_estimated_append_current
-/
import ChatRobots.Proofs.Poker.Medium

namespace ChatRobots.Poker

/-!
Nothing in a store keeps two stories of one session from waiting at the same time: the table asks
for the current story and inserts a new one in two separate calls.  Over every run of the game it
holds nevertheless that the stories of a session are its estimated ones followed by the current
one, and that a new story is inserted exactly where there is no current one.
-/

namespace Board

theorem state_of_mem_estimatedOf {board : Board} {sessionId : Int} {story : Story}
    (member : story ∈ board.estimatedOf sessionId) : story.state = .estimated :=
  if_pos (isSome_estimation_of_mem member)

theorem state_of_currentStory {board : Board} {sessionId : Int} {story : Story}
    (current : board.currentStory sessionId = some story) : story.state = .pending := by
  have waits := isNone_estimation_of_currentStory current
  exact if_neg (by simpa using waits)

end Board

namespace Medium

/-- The stories of a session are the estimated ones and then the current one, if there is one.  As
long as there is one no other starts; without one a new story is inserted. -/
theorem stories_eq_estimated_append_current {medium : Medium} {moves : List (Instant × Move)}
    (admits : medium.Admits (medium.insertions moves)) {session : Session}
    (started : session.id ∈ (medium.after moves).sessions.map (·.id)) :
    ∃ estimated current,
      Table.stories medium.backend session (medium.after moves).store =
          (.ok (estimated ++ current.toList), (medium.after moves).store) ∧
        Table.estimatedStories medium.backend session (medium.after moves).store =
          (.ok estimated, (medium.after moves).store) ∧
        Table.currentStory medium.backend session (medium.after moves).store =
          (.ok current, (medium.after moves).store) ∧
        (∀ story ∈ estimated, story.state = .estimated) ∧
        (∀ story ∈ current, story.state = .pending) ∧
        (∀ pending ∈ current, ∀ now title,
          Table.startStory medium.backend now session title (medium.after moves).store =
            (.ok (.blocked pending), (medium.after moves).store)) ∧
        (current = none → ∀ now title, medium.Admits (medium.insertions moves ++ [now]) →
          ∃ story store,
            Table.startStory medium.backend now session title (medium.after moves).store =
                (.ok (.started story), store) ∧
              story.sessionId = session.id ∧ story.title = title ∧ story.state = .pending ∧
              medium.board store = { medium.board (medium.after moves).store with
                stories := (medium.board (medium.after moves).store).stories ++
                  [medium.keptStory story] }) := by
  have consistent := consistent_after admits
  have sound := (run_after_nil admits).2
  have known : session.id ∈ (medium.board (medium.after moves).store).sessionIds :=
    consistent.sessionIds ▸ started
  have split : (medium.board (medium.after moves).store).storiesOf session.id = _ :=
    consistent.exclusive.storiesOf_eq session.id
  refine ⟨_, _, ?_, medium.faithful.estimatedStoriesFor sound session.id,
    medium.faithful.currentStory sound session.id, ?_, ?_, ?_, ?_⟩
  · exact split ▸ medium.faithful.storiesFor sound session.id
  · intro story member
    exact Board.state_of_mem_estimatedOf member
  · intro story current
    exact Board.state_of_currentStory current
  · intro pending waits now title
    exact medium.faithful.run_startStory_of_pending sound waits title
  · intro free now title admitsNow
    obtain ⟨id, store, startedStory, wrote⟩ :=
      medium.faithful.run_startStory (run_after admitsNow).2 known free title
    exact ⟨_, store, startedStory, rfl, rfl, rfl, wrote.board_eq⟩

/-- In the short game the stories in the database are estimated ones and then a current one. -/
theorem stories_of_sprint :
    ∃ (estimated : List Story) (current : Option Story),
      Table.stories database.backend sprintSession (database.after sprint).store =
        (.ok (estimated ++ current.toList), (database.after sprint).store) ∧
      (∀ story ∈ estimated, story.state = .estimated) ∧
      ∀ story ∈ current, story.state = .pending := by
  have admits : database.Admits (database.insertions sprint) := database.admits_of_clock (by decide)
  have started : sprintSession.id ∈ (database.after sprint).sessions.map (·.id) := by
    decide +kernel
  obtain ⟨estimated, current, stories, _, _, given, waits, _⟩ :=
    stories_eq_estimated_append_current admits started
  exact ⟨estimated, current, stories, given, waits⟩

end Medium

end ChatRobots.Poker
