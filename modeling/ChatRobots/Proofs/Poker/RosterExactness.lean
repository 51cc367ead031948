/-
Module: ChatRobots.Proofs.Poker.RosterExactness
Purpose: A receipt says exactly who on the roster has not voted in the run so far.
Main exports: Roster.awaited, CurrentStory.toFinset_voters, Medium.castVote_exact
-/
import Mathlib.Data.Finset.Dedup
import ChatRobots.Proofs.Poker.Ballots
import ChatRobots.Proofs.Poker.Medium

namespace ChatRobots.Poker

/-!
The store knows votes, the receipt speaks of voters.  Who has voted on a story is the set of the
users whose votes on it were written at any time in the run; how often they voted, in which order
and for how many hours makes no difference.  The roster without this set is what a vote waits for.
-/

namespace Roster

/-- The expected voters outside of a set of users, in roster order. -/
def awaited (roster : Roster) (voters : Finset String) : List String :=
  roster.users.filter (· ∉ voters)

theorem outstanding_eq_awaited (roster : Roster) (voters : List String) :
    roster.outstanding voters = roster.awaited voters.toFinset := by
  simp [outstanding, awaited]

/-- Voters who come in are awaited no more, and nobody else is. -/
theorem awaited_sublist (roster : Roster) {voters more : Finset String} (subset : voters ⊆ more) :
    (roster.awaited more).Sublist (roster.awaited voters) := by
  apply List.monotone_filter_right roster.users
  intro user absent
  rw [decide_eq_true_iff] at absent ⊢
  exact fun present => absent (subset present)

/-- With more votes nobody comes to be waited for. -/
theorem awaited_sublist_of_more (roster : Roster) {votes more : List Vote}
    (longer : votes <+: more) :
    (roster.awaited (more.map (·.user)).toFinset).Sublist
      (roster.awaited (votes.map (·.user)).toFinset) := by
  apply roster.awaited_sublist
  intro user member
  rw [List.mem_toFinset] at member ⊢
  exact (longer.map (·.user)).subset member

end Roster

namespace RosterCheck

theorem ofVotes_eq (roster : Roster) (votes : List Vote) :
    RosterCheck.ofVotes roster votes =
      if roster.users = [] then .untracked
      else if roster.awaited (votes.map (·.user)).toFinset = [] then .complete votes
      else .waiting (roster.awaited (votes.map (·.user)).toFinset) := by
  simp only [ofVotes, Roster.isEmpty, List.isEmpty_iff, Roster.outstanding_eq_awaited]

section More

variable {roster : Roster} {votes more : List Vote}

/-- What is waited for with more votes was waited for before. -/
theorem ofVotes_waiting_of_more (longer : votes <+: more) {rest : List String}
    (waits : ofVotes roster more = .waiting rest) :
    ∃ before, ofVotes roster votes = .waiting before ∧ rest.Sublist before := by
  have fewer := roster.awaited_sublist_of_more longer
  rw [ofVotes_eq] at waits ⊢
  split at waits
  · cases waits
  · rename_i tracked
    split at waits
    · cases waits
    · rename_i someone
      cases waits
      have someone_before : roster.awaited (votes.map (·.user)).toFinset ≠ [] := fun nobody =>
        someone (List.sublist_nil.1 (nobody ▸ fewer))
      exact ⟨_, by rw [if_neg tracked, if_neg someone_before], fewer⟩

/-- What is complete stays complete with more votes. -/
theorem ofVotes_complete_of_more (longer : votes <+: more) {revealed : List Vote}
    (complete : ofVotes roster votes = .complete revealed) :
    ofVotes roster more = .complete more := by
  have fewer := roster.awaited_sublist_of_more longer
  rw [ofVotes_eq] at complete ⊢
  split at complete
  · cases complete
  · rename_i tracked
    split at complete
    · rename_i nobody
      have still_nobody : roster.awaited (more.map (·.user)).toFinset = [] :=
        List.sublist_nil.1 (nobody ▸ fewer)
      rw [if_neg tracked, if_pos still_nobody]
    · cases complete

end More

end RosterCheck

/-- The status shows the votes that there are on the current story. -/
theorem Board.votes_of_status {board : Board} {channel : String} {status : SessionStatus}
    (told : board.status channel = some status) :
    ∀ current ∈ status.current, current.votes = board.votesOn current.story.id := by
  intro current isCurrent
  obtain ⟨session, _, rfl⟩ := Option.map_eq_some_iff.1 told
  obtain ⟨story, _, rfl⟩ := Option.map_eq_some_iff.1 isCurrent
  rfl

namespace CurrentStory

/-- The voters met so far, with the user of one more vote. -/
def meet (seen : List String) (vote : Vote) : List String :=
  if seen.contains vote.user then seen else seen ++ [vote.user]

theorem mem_meet {seen : List String} {vote : Vote} {user : String} :
    user ∈ meet seen vote ↔ user ∈ seen ∨ user = vote.user := by
  unfold meet
  by_cases present : vote.user ∈ seen
  · rw [if_pos (List.contains_iff_mem.2 present)]
    exact ⟨.inl, fun member => member.elim id fun same => same ▸ present⟩
  · rw [if_neg (mt List.contains_iff_mem.1 present), List.mem_append, List.mem_singleton]

theorem nodup_meet {seen : List String} (nodup : seen.Nodup) (vote : Vote) :
    (meet seen vote).Nodup := by
  unfold meet
  by_cases present : vote.user ∈ seen
  · rwa [if_pos (List.contains_iff_mem.2 present)]
  · rw [if_neg (mt List.contains_iff_mem.1 present), List.nodup_append]
    simpa [nodup] using fun user member => ne_of_mem_of_not_mem member present

theorem mem_foldl_meet {votes : List Vote} {seen : List String} {user : String} :
    user ∈ votes.foldl meet seen ↔ user ∈ seen ∨ user ∈ votes.map (·.user) := by
  induction votes generalizing seen with
  | nil => simp
  | cons vote votes ih =>
      rw [List.foldl_cons, ih, mem_meet, List.map_cons, List.mem_cons, or_assoc]

theorem nodup_foldl_meet (votes : List Vote) {seen : List String} (nodup : seen.Nodup) :
    (votes.foldl meet seen).Nodup := by
  induction votes generalizing seen with
  | nil => exact nodup
  | cons vote votes ih => exact ih (nodup_meet nodup vote)

theorem nodup_voters (current : CurrentStory) : current.voters.Nodup :=
  nodup_foldl_meet current.votes List.nodup_nil

/-- A voter is a user with a vote, however many votes that is. -/
theorem toFinset_voters (current : CurrentStory) :
    current.voters.toFinset = (current.votes.map (·.user)).toFinset := by
  ext user
  rw [List.mem_toFinset, List.mem_toFinset]
  exact mem_foldl_meet.trans (or_iff_right List.not_mem_nil)

end CurrentStory

namespace Faithful

variable {σ : Type} {store : Backend σ} (faithful : Faithful store) {now : Instant}
  {times : List Instant} {s after : σ}

/-- Whatever a receipt was given for was written. -/
theorem wrote_of_castVote (sound : faithful.Sound (now :: times) s) {session : Session}
    {story : Story} (known : story.id ∈ (faithful.board s).storyIds) {user value : String}
    {receipt : VoteReceipt}
    (cast : Table.castVote store now session story user value s = (.ok receipt, after)) :
    ∃ id number, parseNumber "vote" value = .ok number ∧
      receipt = ⟨⟨id, story.id, user, number, now⟩,
        .ofVotes session.roster ((faithful.board after).votesOn story.id)⟩ ∧
      faithful.Wrote now times (.vote story.id user number) id s after := by
  cases parsed : parseNumber "vote" value with
  | error error =>
      rw [faithful.run_castVote_error sound session story user parsed] at cast
      cases cast
  | ok number =>
      obtain ⟨id, written, ok, wrote⟩ := faithful.run_castVote sound session known user parsed
      rw [ok] at cast
      cases cast
      exact ⟨id, number, rfl, rfl, wrote⟩

end Faithful

namespace Medium

variable {medium : Medium} {moves : List (Instant × Move)} {now : Instant}
  {times : List Instant} {place : Nat} {story : Story} {session : Session} {user value : String}
  {receipt : VoteReceipt} {store : medium.State}

/-- The users whose votes on the story at a place were written, one entry for each vote. -/
def votersOn (medium : Medium) (place : Nat) (moves : List (Instant × Move)) : List String :=
  (Round.castOn place (medium.history moves)).map (·.1)

/-- The run goes on from the store that a call has left. -/
abbrev resume (medium : Medium) (moves : List (Instant × Move)) (store : medium.State) :
    Round medium.State :=
  { medium.after moves with store := store }

/-- The users of the votes on the board are those of the run, the one who just voted last. -/
theorem users_of_wrote (admits : medium.Admits (medium.insertions moves))
    (started : ((medium.after moves).stories.map (·.id))[place]? = some story.id) {id : Int}
    {number : Number} (wrote : medium.faithful.Wrote now times (.vote story.id user number) id
      (medium.after moves).store store) :
    ((medium.board store).votesOn story.id).map (·.user) =
      medium.votersOn place moves ++ [user] := by
  rw [List.getElem?_map] at started
  obtain ⟨known, isKnown, same⟩ := Option.map_eq_some_iff.1 started
  have users := Keeping.users_eq ((run_after_nil admits).1.polled.casts place known isKnown)
  rw [same] at users
  rw [board, wrote.board_eq, Board.votesOn_apply_vote, List.map_append, votersOn, ← users]
  rfl

/-- Whoever had voted at one vote has voted at every later one. -/
theorem roster_of_later_castVote {more : List (Instant × Move)} {later : Instant}
    (admits : medium.Admits (medium.insertions moves ++
      now :: (medium.faithful.schedule more (medium.resume moves store) ++ [later])))
    (started : ((medium.after moves).stories.map (·.id))[place]? = some story.id)
    (cast : Table.castVote medium.backend now session story user value
      (medium.after moves).store = (.ok receipt, store))
    {laterUser laterValue : String} {laterReceipt : VoteReceipt} {laterStore : medium.State}
    (laterCast : Table.castVote medium.backend later session story laterUser laterValue
        ((medium.resume moves store).playAll medium.backend more).2.store =
      (.ok laterReceipt, laterStore)) :
    ∃ votes, laterReceipt.roster = .ofVotes session.roster votes ∧
      (medium.board store).votesOn story.id <+: votes := by
  have known := known_of_started (admits_of_append admits) started
  obtain ⟨id, number, _, _, wrote⟩ :=
    medium.faithful.wrote_of_castVote (run_after admits).2 known cast
  have consistent : (medium.faithful.view (medium.resume moves store)).Consistent := by
    have voted := (consistent_after (admits_of_append admits)).vote medium.faithful.keeping now
      known wrote.fresh
    simp only [Faithful.view, wrote.board_eq]
    exact voted
  obtain ⟨run, sound⟩ := medium.faithful.run_playAll wrote.sound consistent
  have still : story.id ∈ (medium.board
      ((medium.resume moves store).playAll medium.backend more).2.store).storyIds := by
    have ids := (run.prefix_stories.map (·.id)).subset (List.mem_of_getElem? started)
    exact (run.consistent consistent).storyIds ▸ ids
  obtain ⟨_, _, _, rfl, wroteLater⟩ := medium.faithful.wrote_of_castVote sound still laterCast
  refine ⟨_, rfl, ?_⟩
  rw [wroteLater.board_eq]
  exact (run.prefix_votes.trans (List.prefix_append _ _)).filter _

/-- Exactly those on the roster are outstanding who have not voted on the story in the whole run,
and it stays so. -/
theorem castVote_exact (admits : medium.Admits (medium.insertions moves ++ [now]))
    (started : ((medium.after moves).stories.map (·.id))[place]? = some story.id)
    (cast : Table.castVote medium.backend now session story user value
      (medium.after moves).store = (.ok receipt, store)) :
    ∃ votes, Table.revealVotes medium.backend story store = (.ok votes, store) ∧
      votes.map (·.user) = medium.votersOn place moves ++ [user] ∧
      votes.getLast? = some (medium.keptVote receipt.vote) ∧
      receipt.roster =
        (if session.roster.users = [] then .untracked
        else if session.roster.awaited (medium.votersOn place moves ++ [user]).toFinset = [] then
          .complete votes
        else .waiting (session.roster.awaited (medium.votersOn place moves ++ [user]).toFinset)) ∧
      (∀ channel status, Table.status medium.backend channel store = (.ok (some status), store) →
        ∀ current ∈ status.current, current.story.id = story.id →
          current.voters.Nodup ∧
            current.voters.toFinset = (medium.votersOn place moves ++ [user]).toFinset ∧
            session.roster.outstanding current.voters =
              session.roster.awaited (medium.votersOn place moves ++ [user]).toFinset) ∧
      ∀ more later laterUser laterValue laterReceipt laterStore,
        medium.Admits (medium.insertions moves ++
          now :: (medium.faithful.schedule more (medium.resume moves store) ++ [later])) →
        Table.castVote medium.backend later session story laterUser laterValue
            ((medium.resume moves store).playAll medium.backend more).2.store =
          (.ok laterReceipt, laterStore) →
        (∀ rest, laterReceipt.roster = .waiting rest →
          ∃ before, receipt.roster = .waiting before ∧ rest.Sublist before) ∧
        ∀ revealed, receipt.roster = .complete revealed →
          ∃ all, laterReceipt.roster = .complete all := by
  have known := known_of_started (admits_of_append admits) started
  obtain ⟨id, number, _, rfl, wrote⟩ :=
    medium.faithful.wrote_of_castVote (run_after admits).2 known cast
  have users := users_of_wrote (admits_of_append admits) started wrote
  refine ⟨_, medium.faithful.votesFor wrote.sound story.id, users, ?_, ?_, ?_, ?_⟩
  · rw [wrote.board_eq, Board.votesOn_apply_vote, List.getLast?_concat]
    rfl
  · rw [RosterCheck.ofVotes_eq, users]
  · intro channel status told current isCurrent same
    rw [medium.faithful.run_status wrote.sound] at told
    have status_eq : (medium.board store).status channel = some status := by
      simpa using congrArg Prod.fst told
    have votes : current.votes = (medium.board store).votesOn story.id :=
      same ▸ Board.votes_of_status status_eq current isCurrent
    have voters : current.voters.toFinset =
        (medium.votersOn place moves ++ [user]).toFinset := by
      rw [current.toFinset_voters, votes, users]
    exact ⟨current.nodup_voters, voters, by rw [Roster.outstanding_eq_awaited, voters]⟩
  · intro more later laterUser laterValue laterReceipt laterStore admitsLater laterCast
    obtain ⟨votes, roster, longer⟩ := roster_of_later_castVote admitsLater started cast laterCast
    rw [roster]
    constructor
    · intro rest waits
      exact RosterCheck.ofVotes_waiting_of_more longer waits
    · intro revealed complete
      exact ⟨votes, RosterCheck.ofVotes_complete_of_more longer complete⟩

/-- In the short game the second vote of the roster completes it. -/
theorem castVote_of_sprint :
    ∃ receipt store votes,
      Table.castVote memory.backend noon sprintSession sprintStory "bob" "0"
          (memory.after sprint).store = (.ok receipt, store) ∧
        receipt.roster = .complete votes ∧ votes.map (·.user) = ["ann", "bob"] := by
  have admits : memory.Admits (memory.insertions sprint ++ [noon]) := trivial
  have started : ((memory.after sprint).stories.map (·.id))[0]? = some sprintStory.id := by
    decide +kernel
  have parsed : parseNumber "vote" "0" = .ok (Number.zero false) := by rfl
  obtain ⟨id, store, cast, _⟩ := memory.faithful.run_castVote (run_after admits).2 sprintSession
    (known_of_started (admits_of_append admits) started) "bob" parsed
  obtain ⟨votes, _, users, _, roster, _⟩ := castVote_exact admits started cast
  have voters : memory.votersOn 0 sprint ++ ["bob"] = ["ann", "bob"] := by decide +kernel
  rw [voters] at users roster
  have nobody : sprintSession.roster.awaited ["ann", "bob"].toFinset = [] := by decide
  rw [if_neg (by decide), if_pos nobody] at roster
  exact ⟨_, store, votes, cast, roster, users⟩

end Medium

end ChatRobots.Poker
