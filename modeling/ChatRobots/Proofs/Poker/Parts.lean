/-
Module: ChatRobots.Proofs.Poker.Parts
Purpose: A store that is a part of a larger state is as faithful as it is alone.
Main exports: Faithful.within
-/
import ChatRobots.Proofs.Poker.Faithful

namespace ChatRobots

namespace Poker

/-!
A part of a larger state is given by how it is read and how it is replaced.  If what was put in
is what is read, and putting in what was read changes nothing, then the larger state shows the
board of its part.
-/

variable {σ τ : Type} {store : Backend σ} {get : τ → σ} {set : σ → τ → τ}

/-- What is written to the part is written to the whole. -/
theorem Writes.within {board : σ → Board} {keeping : Keeping} {Sound : List Instant → σ → Prop}
    {now : Instant} {times : List Instant} {change : Change} {id : Int} {whole : τ} {part : σ}
    (wrote : Writes board keeping Sound now times change id (get whole) part)
    (get_set : ∀ part whole, get (set part whole) = part) :
    Writes (fun whole => board (get whole)) keeping (fun times whole => Sound times (get whole))
      now times change id whole (set part whole) where
  fresh := wrote.fresh
  board_eq := by rw [get_set, wrote.board_eq]
  sound := by rw [get_set]; exact wrote.sound

/-- The larger state shows the board of its part. -/
def Faithful.within (faithful : Faithful store)
    (get_set : ∀ part whole, get (set part whole) = part)
    (set_get : ∀ whole, set (get whole) whole = whole) : Faithful (store.within get set) where
  board whole := faithful.board (get whole)
  keeping := faithful.keeping
  Sound times whole := faithful.Sound times (get whole)
  sound_tail sound := faithful.sound_tail sound
  startSession sound channel title csv := by
    obtain ⟨id, part, started, wrote⟩ := faithful.startSession sound channel title csv
    exact ⟨id, _, Act.run_within started, wrote.within get_set⟩
  currentSession sound channel := Act.ask_within set_get (faithful.currentSession sound channel)
  startStory sound _ known title := by
    obtain ⟨id, part, started, wrote⟩ := faithful.startStory sound known title
    exact ⟨id, _, Act.run_within started, wrote.within get_set⟩
  currentStory sound sessionId := Act.ask_within set_get (faithful.currentStory sound sessionId)
  castVote sound _ known user _ _ parsed := by
    obtain ⟨id, part, cast, wrote⟩ := faithful.castVote sound known user parsed
    exact ⟨id, _, Act.run_within cast, wrote.within get_set⟩
  castVote_error sound now storyId user _ _ refused :=
    Act.ask_within set_get (faithful.castVote_error sound now storyId user refused)
  votesFor sound storyId := Act.ask_within set_get (faithful.votesFor sound storyId)
  setEstimation sound now storyId _ _ parsed := by
    obtain ⟨id, part, estimated, wrote⟩ := faithful.setEstimation sound now storyId parsed
    exact ⟨id, _, Act.run_within estimated, wrote.within get_set⟩
  setEstimation_error sound storyId _ _ refused :=
    Act.ask_within set_get (faithful.setEstimation_error sound storyId refused)
  finishSession sound now sessionId := by
    obtain ⟨id, part, finished, wrote⟩ := faithful.finishSession sound now sessionId
    exact ⟨id, _, Act.run_within finished, wrote.within get_set⟩
  storiesFor sound sessionId := Act.ask_within set_get (faithful.storiesFor sound sessionId)
  estimatedStoriesFor sound sessionId :=
    Act.ask_within set_get (faithful.estimatedStoriesFor sound sessionId)

end Poker

end ChatRobots
