/-
Module: ChatRobots.Proofs.Poker.Entries
Purpose: What the rules of the game do to the rows of a store.
Main exports: Backend.Reads, Backend.Respects, Bookkeeping.respects, Bookkeeping.startStory_ok,
  Bookkeeping.castVote_ok
-/
import ChatRobots.Proofs.Action
import ChatRobots.Proofs.Poker.Ledger

namespace ChatRobots.Poker

/-!
Every rule is a sequence of calls of the store, so what each call preserves every rule preserves,
whether it comes to its end or breaks off.  A rule that answers has made at most one entry: a story
is started only after a question, and a vote is followed by questions only.
-/

variable {σ : Type}

/-- The questions to the store stay within this relation of states. -/
structure Backend.Reads (store : Backend σ) (R : σ → σ → Prop) : Prop where
  refl : ∀ state, R state state
  trans : ∀ ⦃first second third⦄, R first second → R second third → R first third
  currentSession : ∀ channel, Moves R (store.currentSession channel)
  currentStory : ∀ sessionId, Moves R (store.currentStory sessionId)
  votesFor : ∀ storyId, Moves R (store.votesFor storyId)
  storiesFor : ∀ sessionId, Moves R (store.storiesFor sessionId)
  estimatedStoriesFor : ∀ sessionId, Moves R (store.estimatedStoriesFor sessionId)

/-- All calls of the store stay within this relation of states. -/
structure Backend.Respects (store : Backend σ) (R : σ → σ → Prop) : Prop extends
    store.Reads R where
  startSession : ∀ now channel title csv, Moves R (store.startSession now channel title csv)
  startStory : ∀ now sessionId title, Moves R (store.startStory now sessionId title)
  castVote : ∀ now storyId user value, Moves R (store.castVote now storyId user value)
  setEstimation : ∀ storyId hours, Moves R (store.setEstimation storyId hours)
  finishSession : ∀ now sessionId, Moves R (store.finishSession now sessionId)

section Rules

variable {store : Backend σ} {R : σ → σ → Prop}

theorem Backend.Reads.status (reads : store.Reads R) (channel : String) :
    Moves R (Table.status store channel) := by
  apply (reads.currentSession channel).bind reads.trans
  intro current
  cases current with
  | none => exact moves_pure reads.refl _
  | some session =>
      apply (reads.estimatedStoriesFor session.id).bind reads.trans
      intro estimated
      apply (reads.currentStory session.id).bind reads.trans
      intro story
      refine Moves.bind ?_ reads.trans fun _ => moves_pure reads.refl _
      cases story with
      | none => exact moves_pure reads.refl _
      | some story =>
          exact (reads.votesFor story.id).bind reads.trans fun _ => moves_pure reads.refl _

theorem Backend.Respects.startStory_table (respects : store.Respects R) (now : Instant)
    (session : Session) (title : String) :
    Moves R (Table.startStory store now session title) := by
  apply (respects.currentStory session.id).bind respects.trans
  intro current
  cases current with
  | none =>
      exact (respects.startStory now session.id title).bind respects.trans
        fun _ => moves_pure respects.refl _
  | some pending => exact moves_pure respects.refl _

/-- What follows a vote are questions. -/
theorem Backend.Reads.check (reads : store.Reads R) (session : Session) (story : Story)
    (vote : Vote) :
    Moves R (do
      if session.roster.isEmpty then pure ⟨vote, .untracked⟩
      else do
        let votes ← store.votesFor story.id
        let outstanding := session.roster.outstanding (votes.map (·.user))
        if outstanding.isEmpty then do
          let revealed ← Table.revealVotes store story
          pure ⟨vote, .complete revealed⟩
        else pure ⟨vote, .waiting outstanding⟩ : Act σ VoteReceipt) := by
  split
  · exact moves_pure reads.refl _
  · apply (reads.votesFor story.id).bind reads.trans
    intro votes
    dsimp only
    split
    · exact (reads.votesFor story.id).bind reads.trans fun _ => moves_pure reads.refl _
    · exact moves_pure reads.refl _

theorem Backend.Respects.castVote_table (respects : store.Respects R) (now : Instant)
    (session : Session) (story : Story) (user value : String) :
    Moves R (Table.castVote store now session story user value) :=
  (respects.castVote now story.id user value).bind respects.trans
    fun vote => respects.check session story vote

end Rules

namespace Bookkeeping

variable {store : Backend σ} (books : Bookkeeping store) {now : Instant} {before after : σ}

/-- One change was written into these books. -/
abbrev Wrote (now : Instant) (change : Change) (id : Int) (before after : σ) : Prop :=
  Written books.ledger books.hand books.Sound now change id before after

/-- Questions change nothing. -/
theorem reads (books : Bookkeeping store) : store.Reads fun before after => after = before where
  refl _ := rfl
  trans _ _ _ first second := second.trans first
  currentSession channel state := books.currentSession channel state
  currentStory sessionId state := books.currentStory sessionId state
  votesFor storyId state := books.votesFor storyId state
  storiesFor sessionId state := books.storiesFor sessionId state
  estimatedStoriesFor sessionId state := books.estimatedStoriesFor sessionId state

/-- Every call leaves the store in order, whether it answers or fails. -/
theorem respects : store.Respects fun before after => books.Sound before → books.Sound after where
  refl _ sound := sound
  trans _ _ _ first second sound := second (first sound)
  currentSession channel state sound := (books.currentSession channel state).symm ▸ sound
  currentStory sessionId state sound := (books.currentStory sessionId state).symm ▸ sound
  votesFor storyId state sound := (books.votesFor storyId state).symm ▸ sound
  storiesFor sessionId state sound := (books.storiesFor sessionId state).symm ▸ sound
  estimatedStoriesFor sessionId state sound :=
    (books.estimatedStoriesFor sessionId state).symm ▸ sound
  startSession now channel title csv state sound :=
    (books.startSession sound now channel title csv).state sound
      fun _ _ ⟨_, _, written⟩ => written.sound
  startStory now sessionId title state sound :=
    (books.startStory sound now sessionId title).state sound
      fun _ _ ⟨_, _, written⟩ => written.sound
  castVote now storyId user value state sound :=
    (books.castVote sound now storyId user value).state sound
      fun _ _ ⟨_, _, _, written⟩ => written.sound
  setEstimation storyId hours state sound :=
    -- An estimation bears no time, so any will do.
    let anytime : Instant := ⟨⟨1970, 1, 1, by decide⟩, 0, 0⟩
    (books.setEstimation sound anytime storyId hours).state sound
      fun _ _ ⟨_, _, _, written⟩ => written.sound
  finishSession now sessionId state sound :=
    (books.finishSession sound now sessionId).state sound
      fun _ _ ⟨_, written⟩ => written.sound

variable {books}

/-- A story is started by one entry, or blocked by none. -/
theorem startStory_ok (sound : books.Sound before) {session : Session} {title : String}
    {start : StoryStart}
    (done : Table.startStory store now session title before = (.ok start, after)) :
    (∃ pending, start = .blocked pending ∧ after = before) ∨
      ∃ story id, start = .started story ∧ story.title = title ∧
        books.Wrote now (.story session.id title) id before after := by
  obtain ⟨current, between, asked, starting⟩ := run_bind_eq_ok done
  obtain rfl : between = before := by
    have unchanged := books.currentStory session.id before
    rwa [asked] at unchanged
  cases current with
  | some pending =>
      cases starting
      exact .inl ⟨pending, rfl, rfl⟩
  | none =>
      obtain ⟨story, later, started, told⟩ := run_bind_eq_ok starting
      cases told
      obtain ⟨titled, id, written⟩ := (books.startStory sound now session.id title).of_ok started
      exact .inr ⟨story, id, rfl, titled, written⟩

/-- A vote is one entry. -/
theorem castVote_ok (sound : books.Sound before) {session : Session} {story : Story}
    {user value : String} {receipt : VoteReceipt}
    (done : Table.castVote store now session story user value before = (.ok receipt, after)) :
    ∃ number id, parseNumber "vote" value = .ok number ∧
      books.Wrote now (.vote story.id user number) id before after := by
  obtain ⟨vote, between, cast, checking⟩ := run_bind_eq_ok done
  have unchanged := books.reads.check session story vote between
  obtain rfl : after = between := by
    rwa [checking] at unchanged
  exact (books.castVote sound now story.id user value).of_ok cast

end Bookkeeping

end ChatRobots.Poker
