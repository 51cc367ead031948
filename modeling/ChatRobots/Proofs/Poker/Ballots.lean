/-
Module: ChatRobots.Proofs.Poker.Ballots
Purpose: The votes on a story are the ones that were cast on it during the run.
Main exports: Round.castOn, Keeping.Casts, Round.Run.polled, Round.Run.prefix_votes
-/
import ChatRobots.Proofs.Lists
import ChatRobots.Proofs.Poker.Runs

namespace ChatRobots.Poker

/-!
What was cast on a story can be read off the history of a run: the moves that were answered with a
receipt.  The votes on the board are these, in the same order, for every story at once; a story
that has just been started has none, because every vote refers to a story that was there before it.
-/

/-- The vote is what the store keeps of this user and this text. -/
def Keeping.Casts (keeping : Keeping) (vote : Vote) (cast : String × String) : Prop :=
  vote.user = cast.1 ∧
    ∃ number, parseNumber "vote" cast.2 = .ok number ∧ vote.value = keeping.number number

/-- The users of the votes are the users who cast them. -/
theorem Keeping.users_eq {keeping : Keeping} {votes : List Vote} {casts : List (String × String)}
    (cast : List.Forall₂ keeping.Casts votes casts) : votes.map (·.user) = casts.map (·.1) :=
  map_eq_of_alike cast fun _ _ same => same.1

namespace Round

/-- The user and the text of one vote, if this was one on the story at the place. -/
def castBy (place : Nat) : Move × Answer → Option (String × String)
  | (.castVote _ story user value, .receipt _) =>
      if story = place then some (user, value) else none
  | _ => none

/-- What was cast on the story at a place: users and texts, in the order of the calls. -/
def castOn (place : Nat) (history : List (Move × Answer)) : List (String × String) :=
  history.filterMap (castBy place)

theorem castOn_concat_of_none {place : Nat} {played : Move × Answer}
    (nothing : castBy place played = none) (history : List (Move × Answer)) :
    castOn place (history ++ [played]) = castOn place history := by
  simp [castOn, nothing]

theorem castOn_concat_of_some {place : Nat} {played : Move × Answer} {cast : String × String}
    (something : castBy place played = some cast) (history : List (Move × Answer)) :
    castOn place (history ++ [played]) = castOn place history ++ [cast] := by
  simp [castOn, something]

theorem aboutSession_ne_receipt {round : Round Board} {place : Nat}
    {tell : Session → Option Answer} {receipt : VoteReceipt}
    (never : ∀ session, tell session ≠ some (.receipt receipt)) :
    round.aboutSession place tell ≠ some (.receipt receipt) := by
  unfold aboutSession
  split
  · exact never _
  · intro told
    cases told

theorem aboutStory_ne_receipt {round : Round Board} {place : Nat}
    {tell : Story → Option Answer} {receipt : VoteReceipt}
    (never : ∀ story, tell story ≠ some (.receipt receipt)) :
    round.aboutStory place tell ≠ some (.receipt receipt) := by
  unfold aboutStory
  split
  · exact never _
  · intro told
    cases told

/-- A vote for which there is a receipt was written. -/
theorem tells_castVote_ne_receipt {round : Round Board} {session story : Nat}
    {user value : String} {receipt : VoteReceipt} :
    round.tells (.castVote session story user value) ≠ some (.receipt receipt) := by
  apply aboutSession_ne_receipt
  intro _
  apply aboutStory_ne_receipt
  intro _ refused
  obtain ⟨error, _, told⟩ := refusal_eq_some refused
  cases told

/-- What only tells something casts nothing. -/
theorem castBy_of_tells {round : Round Board} {move : Move} {answer : Answer}
    (told : round.tells move = some answer) (place : Nat) : castBy place (move, answer) = none := by
  unfold castBy
  split
  · rename_i equal
    cases equal
    exact absurd told tells_castVote_ne_receipt
  · rfl

/-- The places of stories with one id are one place. -/
theorem Consistent.story_place_eq {round : Round Board} (consistent : round.Consistent)
    {first second : Nat} {story other : Story} (firstStory : round.stories[first]? = some story)
    (secondStory : round.stories[second]? = some other) (same : story.id = other.id) :
    first = second := by
  have ids : (round.stories.map (·.id)).Nodup := by
    rw [consistent.storyIds]
    exact consistent.wellFormed.storyIds_lt.imp Int.ne_of_lt
  exact place_eq_of_nodup ids firstStory secondStory same

/-- Nothing was voted on a story that is not there yet. -/
theorem Consistent.votesOn_fresh {round : Round Board} (consistent : round.Consistent) {id : Int}
    (fresh : ∀ earlier ∈ round.store.storyIds, earlier < id) : round.store.votesOn id = [] := by
  apply List.filter_eq_nil_iff.2
  intro vote member
  have before := fresh _ (consistent.wellFormed.story_mem vote member)
  simpa using Int.ne_of_lt before

/-- On every story of the round the votes are the ones cast on it, and on no other. -/
structure Polled (keeping : Keeping) (history : List (Move × Answer)) (round : Round Board) :
    Prop where
  casts : ∀ place story, round.stories[place]? = some story →
    List.Forall₂ keeping.Casts (round.store.votesOn story.id) (castOn place history)
  nowhere : ∀ place, round.stories.length ≤ place → castOn place history = []

theorem polled_empty (keeping : Keeping) : Polled keeping [] ⟨{}, [], []⟩ where
  casts := fun _ _ known => absurd known (by simp)
  nowhere := fun _ _ => rfl

section Polled

variable {keeping : Keeping} {now : Instant} {history : List (Move × Answer)}
  {round after : Round Board} {move : Move} {answer : Answer}

/-- What casts nothing and leaves stories and votes alone changes no poll. -/
theorem Polled.unaffected (polled : Polled keeping history round) {played : Move × Answer}
    (nothing : ∀ place, castBy place played = none) (stories : after.stories = round.stories)
    (votes : after.store.votes = round.store.votes) :
    Polled keeping (history ++ [played]) after := by
  constructor
  · intro place story known
    rw [castOn_concat_of_none (nothing place), Board.votesOn, votes]
    exact polled.casts place story (stories ▸ known)
  · intro place beyond
    rw [castOn_concat_of_none (nothing place)]
    exact polled.nowhere place (stories ▸ beyond)

/-- A story that has just been started comes without votes. -/
theorem Polled.started (polled : Polled keeping history round) {played : Move × Answer}
    (nothing : ∀ place, castBy place played = none) {story : Story}
    (stories : after.stories = round.stories ++ [story])
    (votes : after.store.votes = round.store.votes)
    (unvoted : round.store.votesOn story.id = []) : Polled keeping (history ++ [played]) after := by
  constructor
  · intro place known isKnown
    rw [castOn_concat_of_none (nothing place), Board.votesOn, votes]
    rw [stories] at isKnown
    by_cases within : place < round.stories.length
    · rw [List.getElem?_append_left within] at isKnown
      exact polled.casts place known isKnown
    · rw [List.getElem?_append_right (Nat.le_of_not_lt within)] at isKnown
      have new : known = story := by
        obtain ⟨_, isStory⟩ := List.getElem?_eq_some_iff.1 isKnown
        simpa using isStory.symm
      rw [Board.votesOn] at unvoted
      rw [new, polled.nowhere place (Nat.le_of_not_lt within), unvoted]
      exact .nil
  · intro place beyond
    rw [castOn_concat_of_none (nothing place)]
    refine polled.nowhere place (Nat.le_trans ?_ beyond)
    simp [stories]

/-- A vote is added to the poll of its story, and to no other. -/
theorem Polled.voted (polled : Polled keeping history round) (consistent : round.Consistent)
    {played : Move × Answer} {storyPlace : Nat} {voted : Story} {cast : String × String}
    {vote : Vote} (known : round.stories[storyPlace]? = some voted)
    (something : castBy storyPlace played = some cast)
    (nothing : ∀ place, place ≠ storyPlace → castBy place played = none)
    (casts : keeping.Casts vote cast) (about : vote.storyId = voted.id)
    (stories : after.stories = round.stories)
    (votes : after.store.votes = round.store.votes ++ [vote]) :
    Polled keeping (history ++ [played]) after := by
  constructor
  · intro place story isStory
    rw [stories] at isStory
    have earlier := polled.casts place story isStory
    have votesOn : after.store.votesOn story.id =
        round.store.votesOn story.id ++ [vote].filter (·.storyId == story.id) := by
      rw [Board.votesOn, votes, List.filter_append]
      rfl
    by_cases same : place = storyPlace
    · subst same
      have story_eq : voted = story := Option.some.inj (known.symm.trans isStory)
      rw [castOn_concat_of_some something, votesOn, ← story_eq]
      refine List.rel_append (story_eq ▸ earlier) ?_
      simpa [about] using casts
    · have other : ¬ vote.storyId = story.id := fun same_id =>
        same (consistent.story_place_eq isStory known (same_id.symm.trans about))
      rw [castOn_concat_of_none (nothing place same), votesOn]
      simpa [other] using earlier
  · intro place beyond
    rw [stories] at beyond
    obtain ⟨within, _⟩ := List.getElem?_eq_some_iff.1 known
    have elsewhere : place ≠ storyPlace := by
      rintro rfl
      exact absurd within (Nat.not_lt_of_le beyond)
    rw [castOn_concat_of_none (nothing place elsewhere)]
    exact polled.nowhere place beyond

/-- Every move keeps the votes those cast. -/
theorem Polled.step (polled : Polled keeping history round) (consistent : round.Consistent)
    (step : Step keeping now round move answer after) :
    Polled keeping (history ++ [(move, answer)]) after := by
  cases step with
  | told told => exact polled.unaffected (castBy_of_tells told) rfl rfl
  | @wrote change answer id writing fresh =>
      cases writing with
      | session channel title csv => exact polled.unaffected (fun _ => rfl) rfl rfl
      | story title known free =>
          exact polled.started (fun _ => rfl) rfl rfl (consistent.votesOn_fresh fresh)
      | vote user knownSession knownStory parsed =>
          exact polled.voted consistent knownStory (if_pos rfl)
            (fun place elsewhere => if_neg elsewhere.symm) ⟨rfl, _, parsed, rfl⟩ rfl rfl rfl
      | estimate known parsed => exact polled.unaffected (fun _ => rfl) rfl rfl
      | finish known => exact polled.unaffected (fun _ => rfl) rfl rfl

/-- After every run the votes on its stories are those cast. -/
theorem Run.polled (run : Run keeping ⟨{}, [], []⟩ history after) : Polled keeping history after :=
  Run.induction (fun past round => Polled keeping past round)
    (fun _ _ _ _ _ _ polled consistent step => polled.step consistent step) run
    (polled_empty keeping) consistent_empty

/-- A move takes no vote back. -/
theorem Step.prefix_votes (step : Step keeping now round move answer after) :
    round.store.votes <+: after.store.votes := by
  cases step with
  | told told => exact List.prefix_rfl
  | wrote writing fresh =>
      rw [remember_store]
      cases writing with
      | vote user knownSession knownStory parsed => exact List.prefix_append _ _
      | session | story | estimate | finish => exact List.prefix_rfl

theorem Run.prefix_votes {played : List (Move × Answer)} (run : Run keeping round played after) :
    round.store.votes <+: after.store.votes := by
  induction run with
  | nil => exact List.prefix_rfl
  | cons step run ih => exact step.prefix_votes.trans ih

end Polled

end Round

end ChatRobots.Poker
