/-
Module: ChatRobots.Proofs.Poker.VoteHistory
Purpose: The votes on a story are the record of the calls that cast them.
Main exports: Move.ballotOn?, Round.ballotsOn, Medium.readBack, Medium.revealVotes_eq_ballots
-/
import ChatRobots.Number.Writer
import ChatRobots.Proofs.Poker.Ballots
import ChatRobots.Proofs.Poker.Medium

namespace ChatRobots.Poker

/-!
A ballot is a user and a number.  What a run has put to the record of a story are the ballots of
the votes on it that were answered with a receipt, in the order of the calls.  The votes read back
from the store are these and no others: nobody's second vote replaces the first one, a text that is
no number leaves no vote, and no other move of the game, on this story or on another one, touches
what is on the record.
-/

namespace Move

/-- The ballot on the story at a place that the move asks for; a text that is no number is none. -/
def ballotOn? (place : Nat) : Move → Option (String × Number)
  | castVote _ story user value =>
      if story = place then (parseNumber "vote" value).toOption.map (user, ·) else none
  | _ => none

end Move

namespace Round

/-- The ballot that a move has put to the record of the story at a place. -/
def ballotBy (place : Nat) : Move × Answer → Option (String × Number)
  | (move, .receipt _) => move.ballotOn? place
  | _ => none

/-- The ballots on the story at a place, in the order of the calls. -/
def ballotsOn (place : Nat) (history : List (Move × Answer)) : List (String × Number) :=
  history.filterMap (ballotBy place)

/-- A ballot is a vote that was cast, with its text read. -/
theorem ballotBy_eq (place : Nat) (played : Move × Answer) :
    ballotBy place played = (castBy place played).bind fun cast =>
      (parseNumber "vote" cast.2).toOption.map (cast.1, ·) := by
  obtain ⟨move, answer⟩ := played
  cases answer with
  | receipt receipt =>
      cases move with
      | castVote session story user value =>
          simp only [ballotBy, castBy, Move.ballotOn?]
          split <;> rfl
      | _ => rfl
  | _ => cases move <;> rfl

theorem ballotsOn_eq (place : Nat) (history : List (Move × Answer)) :
    ballotsOn place history = (castOn place history).filterMap fun cast =>
      (parseNumber "vote" cast.2).toOption.map (cast.1, ·) := by
  rw [ballotsOn, castOn, List.filterMap_filterMap]
  exact List.filterMap_congr fun played _ => ballotBy_eq place played

theorem ballotsOn_append (place : Nat) (history later : List (Move × Answer)) :
    ballotsOn place (history ++ later) = ballotsOn place history ++ ballotsOn place later :=
  List.filterMap_append

/-- Moves that ask for no ballot put none to the record. -/
theorem ballotsOn_eq_nil {place : Nat} {history : List (Move × Answer)}
    (nothing : ∀ move ∈ history.map (·.1), move.ballotOn? place = none) :
    ballotsOn place history = [] := by
  apply List.filterMap_eq_nil_iff.2
  rintro ⟨move, answer⟩ member
  have unasked := nothing move (List.mem_map_of_mem member)
  cases answer with
  | receipt receipt => exact unasked
  | _ => rfl

end Round

/-- Users and numbers of votes are those of the ballots, the numbers as the store keeps them. -/
theorem Keeping.ballots_eq {keeping : Keeping} {votes : List Vote} {casts : List (String × String)}
    (cast : List.Forall₂ keeping.Casts votes casts) :
    votes.map (fun vote => (vote.user, vote.value)) =
      (casts.filterMap fun cast => (parseNumber "vote" cast.2).toOption.map (cast.1, ·)).map
        fun ballot => (ballot.1, keeping.number ballot.2) := by
  induction cast with
  | nil => rfl
  | cons same _ ih =>
      obtain ⟨user, number, parsed, value⟩ := same
      simp [ih, parsed, user, value, Except.toOption]

namespace Medium

/-- The number that is read back after this one was written: a zero in the database comes back
without its sign. -/
def readBack : Medium → Number → Number
  | memory, number => number
  | database, number => number.unsignedZero

theorem readBack_eq (medium : Medium) : medium.readBack = medium.faithful.keeping.number := by
  cases medium <;> rfl

variable {medium : Medium} {moves more : List (Instant × Move)} {place : Nat} {story : Story}

/-- The votes on the board are the ballots of the run. -/
theorem votesOn_eq_ballots (admits : medium.Admits (medium.insertions moves))
    (started : ((medium.after moves).stories.map (·.id))[place]? = some story.id) :
    ((medium.board (medium.after moves).store).votesOn story.id).map
        (fun vote => (vote.user, vote.value)) =
      (Round.ballotsOn place (medium.history moves)).map
        fun ballot => (ballot.1, medium.readBack ballot.2) := by
  rw [List.getElem?_map] at started
  obtain ⟨known, isKnown, same⟩ := Option.map_eq_some_iff.1 started
  have casts := (run_after_nil admits).1.polled.casts place known isKnown
  rw [same] at casts
  rw [Round.ballotsOn_eq, readBack_eq]
  exact Keeping.ballots_eq casts

/-- Moves without a ballot on the story leave its votes as they are. -/
theorem votesOn_of_no_ballot (admits : medium.Admits (medium.insertions (moves ++ more)))
    (started : ((medium.after moves).stories.map (·.id))[place]? = some story.id)
    (nothing : ∀ timed ∈ more, timed.2.ballotOn? place = none) :
    (medium.board (medium.after (moves ++ more)).store).votesOn story.id =
      (medium.board (medium.after moves).store).votesOn story.id := by
  have run := run_more admits
  have longer : (medium.board (medium.after moves).store).votesOn story.id <+:
      (medium.board (medium.after (moves ++ more)).store).votesOn story.id :=
    run.prefix_votes.filter _
  have still : ((medium.after (moves ++ more)).stories.map (·.id))[place]? = some story.id :=
    getElem?_of_prefix (run.prefix_stories.map (·.id)) started
  have unasked : Round.ballotsOn place
      ((medium.after moves).history medium.backend more) = [] := by
    apply Round.ballotsOn_eq_nil
    intro move member
    rw [Round.moves_history] at member
    obtain ⟨timed, isOne, rfl⟩ := List.mem_map.1 member
    exact nothing timed isOne
  have before := congrArg List.length (votesOn_eq_ballots (admits_before admits) started)
  have later := congrArg List.length (votesOn_eq_ballots admits still)
  rw [history_append, Round.ballotsOn_append, unasked, List.append_nil] at later
  rw [List.length_map] at before later
  exact (longer.eq_of_length (before.trans later.symm)).symm

/-- The next vote is added to the record when its text is a number, and else changes nothing. -/
theorem castVote_next {now : Instant} (admits : medium.Admits (medium.insertions moves ++ [now]))
    (started : ((medium.after moves).stories.map (·.id))[place]? = some story.id)
    (session : Session) (user value : String) :
    match parseNumber "vote" value with
    | .ok number => ∃ receipt store,
        Table.castVote medium.backend now session story user value (medium.after moves).store =
            (.ok receipt, store) ∧
          receipt.vote.user = user ∧ receipt.vote.value = number ∧
          Table.revealVotes medium.backend story store =
            (.ok ((medium.board (medium.after moves).store).votesOn story.id ++
              [medium.keptVote receipt.vote]), store)
    | .error error =>
        Table.castVote medium.backend now session story user value (medium.after moves).store =
          (.error error, (medium.after moves).store) := by
  have sound := (run_after admits).2
  cases parsed : parseNumber "vote" value with
  | error error => exact medium.faithful.run_castVote_error sound session story user parsed
  | ok number =>
      have known := known_of_started (admits_of_append admits) started
      obtain ⟨id, store, cast, wrote⟩ :=
        medium.faithful.run_castVote sound session known user parsed
      have votes := medium.faithful.votesFor wrote.sound story.id
      rw [wrote.board_eq, Board.votesOn_apply_vote] at votes
      exact ⟨_, store, cast, rfl, rfl, votes⟩

/-- In every state of a run the votes on a story are the ballots that were put to its record, in
the order of the calls: a vote that is accepted comes last, one whose text is no number leaves the
store as it was, and no other move of the game changes what is there. -/
theorem revealVotes_eq_ballots (admits : medium.Admits (medium.insertions moves))
    (started : ((medium.after moves).stories.map (·.id))[place]? = some story.id) :
    ∃ votes,
      Table.revealVotes medium.backend story (medium.after moves).store =
          (.ok votes, (medium.after moves).store) ∧
        votes.map (fun vote => (vote.user, vote.value)) =
          (Round.ballotsOn place (medium.history moves)).map
            (fun ballot => (ballot.1, medium.readBack ballot.2)) ∧
        (∀ now session user value, medium.Admits (medium.insertions moves ++ [now]) →
          match parseNumber "vote" value with
          | .ok number => ∃ receipt store,
              Table.castVote medium.backend now session story user value
                  (medium.after moves).store = (.ok receipt, store) ∧
                receipt.vote.user = user ∧ receipt.vote.value = number ∧
                Table.revealVotes medium.backend story store =
                  (.ok (votes ++ [medium.keptVote receipt.vote]), store)
          | .error error =>
              Table.castVote medium.backend now session story user value
                  (medium.after moves).store = (.error error, (medium.after moves).store)) ∧
        ∀ more, medium.Admits (medium.insertions (moves ++ more)) →
          (∀ timed ∈ more, timed.2.ballotOn? place = none) →
          Table.revealVotes medium.backend story (medium.after (moves ++ more)).store =
            (.ok votes, (medium.after (moves ++ more)).store) := by
  refine ⟨_, medium.faithful.votesFor (run_after_nil admits).2 story.id,
    votesOn_eq_ballots admits started, ?_, ?_⟩
  · intro now session user value admitsNow
    exact castVote_next admitsNow started session user value
  · intro more admitsMore nothing
    have votes := medium.faithful.votesFor (run_after_nil admitsMore).2 story.id
    rwa [votesOn_of_no_ballot admitsMore started nothing] at votes

/-- A game with a second vote of one user, a vote of a negative zero, a vote that is refused, and
votes on another story in between. -/
def ballotBox : List (Instant × Move) :=
  [(noon, .startSession "eng" "Sprint" ""), (noon, .startStory 0 "Login"),
    (noon, .castVote 0 0 "ann" "3"), (noon, .startSession "eng" "Review" ""),
    (noon, .startStory 1 "Docs"), (noon, .castVote 1 1 "ann" "8"),
    (noon, .castVote 0 0 "bob" "many"), (noon, .castVote 1 0 "bob" "-0"),
    (noon, .setEstimation 0 "5"), (noon, .castVote 0 0 "ann" "3"), (noon, .finish 0)]

/-- Its first story. -/
def loginStory : Story :=
  ⟨1, 1, "Login", none, noon⟩

/-- Both votes of the one user are on the record, and the negative zero has lost its sign. -/
theorem revealVotes_of_ballotBox :
    ∃ votes,
      Table.revealVotes database.backend loginStory (database.after ballotBox).store =
          (.ok votes, (database.after ballotBox).store) ∧
        votes.map (fun vote => (vote.user, vote.value.fixed2)) =
          [("ann", "3.00"), ("bob", "0.00"), ("ann", "3.00")] := by
  have admits : database.Admits (database.insertions ballotBox) :=
    database.admits_of_clock (by decide)
  have started : ((database.after ballotBox).stories.map (·.id))[0]? = some loginStory.id := by
    decide +kernel
  obtain ⟨votes, revealed, ballots, _⟩ := revealVotes_eq_ballots admits started
  refine ⟨votes, revealed, ?_⟩
  have texts := congrArg (List.map fun ballot => (ballot.1, ballot.2.fixed2)) ballots
  rw [List.map_map] at texts
  have put : ((Round.ballotsOn 0 (database.history ballotBox)).map
      fun ballot => (ballot.1, database.readBack ballot.2)).map
        (fun ballot => (ballot.1, ballot.2.fixed2)) =
      [("ann", "3.00"), ("bob", "0.00"), ("ann", "3.00")] := by
    decide +kernel
  exact texts.trans put

end Medium

end ChatRobots.Poker
