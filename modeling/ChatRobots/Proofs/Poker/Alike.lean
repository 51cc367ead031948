/-
Module: ChatRobots.Proofs.Poker.Alike
Purpose: Boards that differ only in ids, in times and in how numbers are kept.
Main exports: Names, Names.Ordered, Names.Within, Session.Alike, Story.Alike, Vote.Alike,
  Board.Alike, Change.Alike, Board.Alike.apply
-/
import Mathlib.Data.List.Pairwise
import ChatRobots.Poker.Round
import ChatRobots.Proofs.Lists
import ChatRobots.Proofs.Poker.Board

namespace ChatRobots.Poker

/-!
Two stores that have been through the same game do not hold the same rows: each gives out its own
ids, each ran at its own times, and one of them may keep a little less of a number.  What they
hold is alike when the ids of one stand for the ids of the other, kind by kind and in the order in
which they were given out, and when everything else but the times is the same.  Boards that are
alike answer every question alike, and changes that are alike keep them so.
-/

/-- The first id of a pair stands for the second one. -/
abbrev Pairs := List (Int × Int)

/-- The ids on both sides were given out in the same order. -/
def Pairs.Ordered (pairs : Pairs) : Prop :=
  pairs.Pairwise fun earlier later => earlier.1 < later.1 ∧ earlier.2 < later.2

/-- One id stands for one id. -/
theorem Pairs.Ordered.eq_iff {pairs : Pairs} (ordered : pairs.Ordered) {a a' b b' : Int}
    (first : (a, a') ∈ pairs) (second : (b, b') ∈ pairs) : a = b ↔ a' = b' := by
  let Agree (p q : Int × Int) : Prop := p.1 = q.1 ↔ p.2 = q.2
  have agree : pairs.Pairwise Agree :=
    ordered.imp fun before => iff_of_false (Int.ne_of_lt before.1) (Int.ne_of_lt before.2)
  have symm : Std.Symm Agree := ⟨fun _ _ same => eq_comm.trans (same.trans eq_comm)⟩
  have reflexive : ∀ p ∈ pairs, Agree p p := fun _ _ => iff_of_true rfl rfl
  exact List.Pairwise.forall_of_forall reflexive agree first second

/-- Two new ids, each above all earlier ones on its side. -/
theorem Pairs.Ordered.concat {pairs : Pairs} (ordered : pairs.Ordered) {a a' : Int}
    (above : ∀ pair ∈ pairs, pair.1 < a ∧ pair.2 < a') : Pairs.Ordered (pairs ++ [(a, a')]) :=
  List.pairwise_append.2 ⟨ordered, List.pairwise_singleton _ _, fun pair member _ new =>
    List.mem_singleton.1 new ▸ above pair member⟩

/-- The pairs are pairs of ids of two lists, also when one id is added to each. -/
theorem Pairs.mem_concat {pairs : Pairs} {ids ids' : List Int}
    (known : ∀ pair ∈ pairs, pair.1 ∈ ids ∧ pair.2 ∈ ids') (a a' : Int) :
    ∀ pair ∈ pairs ++ [(a, a')], pair.1 ∈ ids ++ [a] ∧ pair.2 ∈ ids' ++ [a'] := by
  intro pair member
  rcases List.mem_append.1 member with old | new
  · exact (known pair old).imp (List.mem_append_left _) (List.mem_append_left _)
  · rw [List.mem_singleton.1 new]
    exact ⟨List.mem_append_right _ (List.mem_singleton_self a),
      List.mem_append_right _ (List.mem_singleton_self a')⟩

/-- Which ids stand for which, kind by kind. -/
structure Names where
  sessions : Pairs := []
  stories : Pairs := []
  votes : Pairs := []

namespace Names

structure Ordered (names : Names) : Prop where
  sessions : names.sessions.Ordered
  stories : names.stories.Ordered
  votes : names.votes.Ordered

theorem ordered_empty : ({} : Names).Ordered :=
  ⟨.nil, .nil, .nil⟩

/-- The names are among some more names. -/
structure Within (names more : Names) : Prop where
  sessions : names.sessions ⊆ more.sessions
  stories : names.stories ⊆ more.stories
  votes : names.votes ⊆ more.votes

theorem Within.refl (names : Names) : names.Within names :=
  ⟨List.Subset.refl _, List.Subset.refl _, List.Subset.refl _⟩

theorem Within.trans {names more most : Names} (first : names.Within more)
    (second : more.Within most) : names.Within most :=
  ⟨List.Subset.trans first.sessions second.sessions,
    List.Subset.trans first.stories second.stories, List.Subset.trans first.votes second.votes⟩

/-- The names after a change that has given the row these ids. -/
def extend (names : Names) (id id' : Int) : Change → Names
  | .session .. => { names with sessions := names.sessions ++ [(id, id')] }
  | .story .. => { names with stories := names.stories ++ [(id, id')] }
  | .vote .. => { names with votes := names.votes ++ [(id, id')] }
  | .estimate .. | .finish _ => names

theorem within_extend (names : Names) (id id' : Int) (change : Change) :
    names.Within (names.extend id id' change) := by
  cases change with
  | session => exact ⟨List.subset_append_left _ _, List.Subset.refl _, List.Subset.refl _⟩
  | story => exact ⟨List.Subset.refl _, List.subset_append_left _ _, List.Subset.refl _⟩
  | vote => exact ⟨List.Subset.refl _, List.Subset.refl _, List.subset_append_left _ _⟩
  | estimate | finish => exact .refl names

end Names

/-- Sessions that differ in their ids and times at most. -/
structure Session.Alike (names : Names) (session session' : Session) : Prop where
  id : (session.id, session'.id) ∈ names.sessions
  channel : session.channel = session'.channel
  title : session.title = session'.title
  roster : session.roster = session'.roster
  finished : session.finishedAt.isSome = session'.finishedAt.isSome

/-- Stories that differ in their ids and times at most, and in their hours as far as allowed. -/
structure Story.Alike (names : Names) (same : Number → Number → Prop) (story story' : Story) :
    Prop where
  id : (story.id, story'.id) ∈ names.stories
  sessionId : (story.sessionId, story'.sessionId) ∈ names.sessions
  title : story.title = story'.title
  estimation : Option.Rel same story.estimation story'.estimation

/-- Votes that differ in their ids and times at most, and in their hours as far as allowed. -/
structure Vote.Alike (names : Names) (same : Number → Number → Prop) (vote vote' : Vote) :
    Prop where
  id : (vote.id, vote'.id) ∈ names.votes
  storyId : (vote.storyId, vote'.storyId) ∈ names.stories
  user : vote.user = vote'.user
  value : same vote.value vote'.value

/-- Boards whose rows are alike one by one, the names being the ones of these rows. -/
structure Board.Alike (names : Names) (same : Number → Number → Prop) (board board' : Board) :
    Prop where
  ordered : names.Ordered
  sessions : List.Forall₂ (Session.Alike names) board.sessions board'.sessions
  stories : List.Forall₂ (Story.Alike names same) board.stories board'.stories
  votes : List.Forall₂ (Vote.Alike names same) board.votes board'.votes
  session_mem : ∀ pair ∈ names.sessions,
    pair.1 ∈ board.sessionIds ∧ pair.2 ∈ board'.sessionIds
  story_mem : ∀ pair ∈ names.stories, pair.1 ∈ board.storyIds ∧ pair.2 ∈ board'.storyIds
  vote_mem : ∀ pair ∈ names.votes, pair.1 ∈ board.voteIds ∧ pair.2 ∈ board'.voteIds

section More

variable {names more : Names} {same : Number → Number → Prop}

theorem Session.Alike.mono {session session' : Session} (alike : session.Alike names session')
    (within : names.Within more) : session.Alike more session' :=
  { alike with id := within.sessions alike.id }

theorem Story.Alike.mono {story story' : Story} (alike : story.Alike names same story')
    (within : names.Within more) : story.Alike more same story' :=
  { alike with
    id := within.stories alike.id
    sessionId := within.sessions alike.sessionId }

theorem Vote.Alike.mono {vote vote' : Vote} (alike : vote.Alike names same vote')
    (within : names.Within more) : vote.Alike more same vote' :=
  { alike with
    id := within.votes alike.id
    storyId := within.stories alike.storyId }

end More

/-- Changes that write alike rows. -/
inductive Change.Alike (names : Names) : Change → Change → Prop where
  | session (channel title : String) (roster : Roster) :
      Alike names (.session channel title roster) (.session channel title roster)
  | story {sessionId sessionId' : Int} (about : (sessionId, sessionId') ∈ names.sessions)
      (title : String) : Alike names (.story sessionId title) (.story sessionId' title)
  | vote {storyId storyId' : Int} (about : (storyId, storyId') ∈ names.stories) (user : String)
      (value : Number) : Alike names (.vote storyId user value) (.vote storyId' user value)
  | estimate {storyId storyId' : Int} (about : (storyId, storyId') ∈ names.stories)
      (hours : Number) : Alike names (.estimate storyId hours) (.estimate storyId' hours)
  | finish {sessionId sessionId' : Int} (about : (sessionId, sessionId') ∈ names.sessions) :
      Alike names (.finish sessionId) (.finish sessionId')

/-- Where a story stands, seen on both sides. -/
structure CurrentStory.Alike (names : Names) (same : Number → Number → Prop)
    (current current' : CurrentStory) : Prop where
  story : current.story.Alike names same current'.story
  votes : List.Forall₂ (Vote.Alike names same) current.votes current'.votes

structure SessionStatus.Alike (names : Names) (same : Number → Number → Prop)
    (status status' : SessionStatus) : Prop where
  session : status.session.Alike names status'.session
  estimatedCount : status.estimatedCount = status'.estimatedCount
  current : Option.Rel (CurrentStory.Alike names same) status.current status'.current

structure Snapshot.Alike (names : Names) (same : Number → Number → Prop)
    (snapshot snapshot' : Snapshot) : Prop where
  session : snapshot.session.Alike names snapshot'.session
  stories : List.Forall₂ (Story.Alike names same) snapshot.stories snapshot'.stories

theorem users_eq_of_alike {names : Names} {same : Number → Number → Prop} {votes votes' : List Vote}
    (alike : List.Forall₂ (Vote.Alike names same) votes votes') :
    votes.map (·.user) = votes'.map (·.user) :=
  map_eq_of_alike alike fun _ _ related => related.user

namespace Board.Alike

variable {names : Names} {same : Number → Number → Prop} {board board' : Board}

theorem empty (same : Number → Number → Prop) : Board.Alike {} same {} {} where
  ordered := Names.ordered_empty
  sessions := .nil
  stories := .nil
  votes := .nil
  session_mem := fun _ member => absurd member List.not_mem_nil
  story_mem := fun _ member => absurd member List.not_mem_nil
  vote_mem := fun _ member => absurd member List.not_mem_nil

section Queries

variable (alike : Board.Alike names same board board') {id id' : Int}

include alike

theorem currentSession (channel : String) :
    Option.Rel (Session.Alike names) (board.currentSession channel)
      (board'.currentSession channel) := by
  refine getLast?_alike (filter_alike alike.sessions ?_)
  intro session session' related
  rw [related.channel, ← Option.not_isSome, ← Option.not_isSome, related.finished]

theorem sessionId_beq {story story' : Story} (related : story.Alike names same story')
    (known : (id, id') ∈ names.sessions) :
    (story.sessionId == id) = (story'.sessionId == id') := by
  rw [Bool.eq_iff_iff, beq_iff_eq, beq_iff_eq]
  exact alike.ordered.sessions.eq_iff related.sessionId known

theorem storiesOf (known : (id, id') ∈ names.sessions) :
    List.Forall₂ (Story.Alike names same) (board.storiesOf id) (board'.storiesOf id') :=
  filter_alike alike.stories fun _ _ related => alike.sessionId_beq related known

theorem estimatedOf (known : (id, id') ∈ names.sessions) :
    List.Forall₂ (Story.Alike names same) (board.estimatedOf id) (board'.estimatedOf id') := by
  apply filter_alike alike.stories
  intro story story' related
  rw [alike.sessionId_beq related known, isSome_alike related.estimation]

theorem currentStory (known : (id, id') ∈ names.sessions) :
    Option.Rel (Story.Alike names same) (board.currentStory id) (board'.currentStory id') := by
  refine getLast?_alike (filter_alike alike.stories ?_)
  intro story story' related
  rw [alike.sessionId_beq related known, ← Option.not_isSome, ← Option.not_isSome,
    isSome_alike related.estimation]

theorem votesOn (known : (id, id') ∈ names.stories) :
    List.Forall₂ (Vote.Alike names same) (board.votesOn id) (board'.votesOn id') := by
  apply filter_alike alike.votes
  intro vote vote' related
  rw [Bool.eq_iff_iff, beq_iff_eq, beq_iff_eq]
  exact alike.ordered.stories.eq_iff related.storyId known

theorem status (channel : String) :
    Option.Rel (SessionStatus.Alike names same) (board.status channel) (board'.status channel) := by
  apply map_alike (alike.currentSession channel)
  intro session session' related
  refine ⟨related, (alike.estimatedOf related.id).length_eq, ?_⟩
  apply map_alike (alike.currentStory related.id)
  intro story story' shown
  exact ⟨shown, alike.votesOn shown.id⟩

theorem snapshot (channel : String) :
    Option.Rel (Snapshot.Alike names same) (board.snapshot channel) (board'.snapshot channel) := by
  apply map_alike (alike.currentSession channel)
  intro session session' related
  exact ⟨related, alike.storiesOf related.id⟩

end Queries

section Apply

variable {change change' : Change} {id id' : Int}

/-- The names of new rows are in order. -/
theorem ordered_extend (alike : Board.Alike names same board board')
    (changes : change.Alike names change') (fresh : change.Fresh id board)
    (fresh' : change'.Fresh id' board') : (names.extend id id' change).Ordered := by
  obtain ⟨sessions, stories, votes⟩ := alike.ordered
  cases changes with
  | session channel title roster =>
      refine ⟨sessions.concat fun pair member => ?_, stories, votes⟩
      obtain ⟨left, right⟩ := alike.session_mem pair member
      exact ⟨fresh _ left, fresh' _ right⟩
  | story about title =>
      refine ⟨sessions, stories.concat fun pair member => ?_, votes⟩
      obtain ⟨left, right⟩ := alike.story_mem pair member
      exact ⟨fresh _ left, fresh' _ right⟩
  | vote about user value =>
      refine ⟨sessions, stories, votes.concat fun pair member => ?_⟩
      obtain ⟨left, right⟩ := alike.vote_mem pair member
      exact ⟨fresh _ left, fresh' _ right⟩
  | estimate about hours => exact ⟨sessions, stories, votes⟩
  | finish about => exact ⟨sessions, stories, votes⟩

/-- Boards stay alike under changes that are alike, their new ids standing for one another. -/
theorem apply (alike : Board.Alike names same board board') {keeping keeping' : Keeping}
    (numbers : ∀ number, same (keeping.number number) (keeping'.number number))
    (now now' : Instant) (changes : change.Alike names change') (fresh : change.Fresh id board)
    (fresh' : change'.Fresh id' board') :
    Board.Alike (names.extend id id' change) same (board.apply keeping now id change)
      (board'.apply keeping' now' id' change') := by
  have ordered := alike.ordered_extend changes fresh fresh'
  have within := names.within_extend id id' change
  have sessions := alike.sessions.imp fun _ _ related => Session.Alike.mono related within
  have stories := alike.stories.imp fun _ _ related => Story.Alike.mono related within
  have votes := alike.votes.imp fun _ _ related => Vote.Alike.mono related within
  cases changes with
  | session channel title roster =>
      refine ⟨ordered, List.rel_append sessions (.cons ?_ .nil), stories, votes, ?_,
        alike.story_mem, alike.vote_mem⟩
      · exact ⟨List.mem_append_right _ (List.mem_singleton_self _), rfl, rfl, rfl, rfl⟩
      · rw [sessionIds_apply_session, sessionIds_apply_session]
        exact Pairs.mem_concat alike.session_mem id id'
  | story about title =>
      refine ⟨ordered, sessions, List.rel_append stories (.cons ?_ .nil), votes,
        alike.session_mem, ?_, alike.vote_mem⟩
      · exact ⟨List.mem_append_right _ (List.mem_singleton_self _), about, rfl, .none⟩
      · rw [storyIds_apply_story, storyIds_apply_story]
        exact Pairs.mem_concat alike.story_mem id id'
  | vote about user value =>
      refine ⟨ordered, sessions, stories, List.rel_append votes (.cons ?_ .nil),
        alike.session_mem, alike.story_mem, ?_⟩
      · exact ⟨List.mem_append_right _ (List.mem_singleton_self _), about, rfl, numbers value⟩
      · rw [voteIds_apply_vote, voteIds_apply_vote]
        exact Pairs.mem_concat alike.vote_mem id id'
  | @estimate storyId storyId' about hours =>
      refine ⟨ordered, sessions, List.rel_map (fun story story' related => ?_) stories, votes,
        alike.session_mem, ?_, alike.vote_mem⟩
      · have chosen := ordered.stories.eq_iff related.id about
        by_cases isStory : story.id = storyId
        · rw [if_pos isStory, if_pos (chosen.1 isStory)]
          exact ⟨related.id, related.sessionId, related.title, .some (numbers hours)⟩
        · rw [if_neg isStory, if_neg (mt chosen.2 isStory)]
          exact related
      · rw [Board.apply, Board.apply, storyIds_estimate, storyIds_estimate]
        exact alike.story_mem
  | @finish sessionId sessionId' about =>
      refine ⟨ordered, List.rel_map (fun session session' related => ?_) sessions, stories, votes,
        ?_, alike.story_mem, alike.vote_mem⟩
      · have chosen := ordered.sessions.eq_iff related.id about
        by_cases isSession : session.id = sessionId
        · rw [if_pos isSession, if_pos (chosen.1 isSession)]
          exact ⟨related.id, related.channel, related.title, related.roster, rfl⟩
        · rw [if_neg isSession, if_neg (mt chosen.2 isSession)]
          exact related
      · rw [Board.apply, Board.apply, sessionIds_finish, sessionIds_finish]
        exact alike.session_mem

end Apply

end Board.Alike

end ChatRobots.Poker
