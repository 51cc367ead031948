/-
Module: ChatRobots.Proofs.Poker.OpenSessions
Purpose: The current session of a channel is the one started last of those not finished.
Main exports: Round.Opening, Round.openIn, Round.Run.registered, Medium.currentSession_eq_last_open
-/
import ChatRobots.Proofs.Lists
import ChatRobots.Proofs.Poker.Medium

namespace ChatRobots.Poker

/-!
A channel may have several open sessions.  They lie on a pile: a start puts one on top, a finish
takes one out wherever it lies, and what is done in other channels or with stories and votes does
not move it.  The pile is read off the history of a run alone.  The store has no pile: it looks for
the newest row of the channel without a finishing time.  Both agree after every run, because the
rows are the sessions started, in this order, and a row has a finishing time exactly when its
session was finished.
-/

namespace Round

/-- A session that a run has started: the channel asked for, and its place among all of them. -/
structure Opening where
  channel : String
  session : Session
  place : Nat
deriving DecidableEq

/-- What a move has started, and in which channel. -/
def startBy : Move × Answer → Option (String × Session)
  | (.startSession channel _ _, .session session) => some (channel, session)
  | _ => none

/-- The place of the session that a move was asked to finish. -/
def finishBy : Move × Answer → Option Nat
  | (.finish _, .noSuchPlace) => none
  | (.finish place, _) => some place
  | _ => none

/-- The sessions started, in order. -/
def openings (history : List (Move × Answer)) : List Opening :=
  (history.filterMap startBy).mapIdx fun place started => ⟨started.1, started.2, place⟩

/-- The places of the sessions finished, one entry for each call. -/
def finishes (history : List (Move × Answer)) : List Nat :=
  history.filterMap finishBy

/-- The sessions started in the channel and not finished since, the newest one last. -/
def openIn (channel : String) (history : List (Move × Answer)) : List Opening :=
  (openings history).filter fun opening =>
    opening.channel == channel && !(finishes history).contains opening.place

section Histories

variable {history : List (Move × Answer)} {played : Move × Answer}

theorem openings_concat_of_none (nothing : startBy played = none)
    (history : List (Move × Answer)) : openings (history ++ [played]) = openings history := by
  simp [openings, nothing]

theorem openings_concat_of_some {channel : String} {session : Session}
    (something : startBy played = some (channel, session)) (history : List (Move × Answer)) :
    openings (history ++ [played]) =
      openings history ++ [⟨channel, session, (openings history).length⟩] := by
  simp [openings, something]

theorem finishes_concat_of_none (nothing : finishBy played = none)
    (history : List (Move × Answer)) : finishes (history ++ [played]) = finishes history := by
  simp [finishes, nothing]

theorem finishes_concat_of_some {place : Nat} (something : finishBy played = some place)
    (history : List (Move × Answer)) :
    finishes (history ++ [played]) = finishes history ++ [place] := by
  simp [finishes, something]

theorem finishes_append (history later : List (Move × Answer)) :
    finishes (history ++ later) = finishes history ++ finishes later :=
  List.filterMap_append

/-- What was started stays at its place. -/
theorem openings_prefix (history later : List (Move × Answer)) :
    openings history <+: openings (history ++ later) := by
  rw [openings, openings, List.filterMap_append, List.mapIdx_append]
  exact List.prefix_append _ _

theorem getElem?_place {opening : Opening} (member : opening ∈ openings history) :
    (openings history)[opening.place]? = some opening := by
  obtain ⟨place, known⟩ := List.mem_iff_getElem?.1 member
  have found := known
  rw [openings, List.getElem?_mapIdx] at found
  obtain ⟨started, _, rfl⟩ := Option.map_eq_some_iff.1 found
  exact known

/-- Later openings stand at later places. -/
theorem places_lt (history : List (Move × Answer)) :
    (openings history).Pairwise fun earlier later => earlier.place < later.place := by
  apply List.pairwise_iff_getElem.2
  intro first second _ _ before
  simpa [openings] using before

/-- To finish the session on top is to take it off the pile. -/
theorem openIn_concat_finish {channel : String} {earlier : List Opening} {newest : Opening}
    (pile : openIn channel history = earlier ++ [newest]) (notStart : startBy played = none)
    (finish : finishBy played = some newest.place) :
    openIn channel (history ++ [played]) = earlier := by
  have without : openIn channel (history ++ [played]) =
      (openIn channel history).filter fun opening => opening.place != newest.place := by
    rw [openIn, openIn, openings_concat_of_none notStart, finishes_concat_of_some finish,
      List.filter_filter]
    apply List.filter_congr
    intro opening _
    simp only [List.contains_append, List.contains_cons, List.contains_nil, Bool.or_false,
      Bool.not_or, bne]
    ac_rfl
  have ordered : (openIn channel history).Pairwise fun earlier later =>
      earlier.place < later.place := (places_lt history).filter _
  rw [pile] at without ordered
  have lower := (List.pairwise_append.1 ordered).2.2
  rw [without, List.filter_append, List.filter_eq_self.2, List.filter_eq_nil_iff.2,
    List.append_nil]
  · intro opening member
    simp [List.mem_singleton.1 member]
  · intro opening member
    have below := lower opening member newest (List.mem_singleton_self _)
    simpa using Nat.ne_of_lt below

end Histories

/-- The row holds what was started, and a finishing time exactly when it was finished. -/
structure Opening.Kept (keeping : Keeping) (finished : List Nat) (opening : Opening)
    (row : Session) : Prop where
  channel : row.channel = opening.channel
  same : { row with finishedAt := none } =
    { opening.session with createdAt := keeping.time opening.session.createdAt }
  finished : row.finishedAt.isSome = finished.contains opening.place

/-- The rows are the sessions started, in order, and those finished are marked so. -/
structure Registered (keeping : Keeping) (history : List (Move × Answer)) (round : Round Board) :
    Prop where
  sessions : round.sessions = (openings history).map (·.session)
  rows : List.Forall₂ (Opening.Kept keeping (finishes history)) (openings history)
    round.store.sessions
  within : ∀ place ∈ finishes history, place < (openings history).length

theorem registered_empty (keeping : Keeping) : Registered keeping [] ⟨{}, [], []⟩ :=
  ⟨rfl, .nil, fun _ member => absurd member List.not_mem_nil⟩

section Registered

variable {keeping : Keeping} {now : Instant} {history : List (Move × Answer)}
  {round after : Round Board} {move : Move} {answer : Answer} {played : Move × Answer}

theorem Opening.Kept.id {finished : List Nat} {opening : Opening} {row : Session}
    (kept : opening.Kept keeping finished row) : row.id = opening.session.id := by
  have same := congrArg (fun session : Session => session.id) kept.same
  exact same

/-- The places of sessions with one id are one place. -/
theorem Consistent.session_place_eq (consistent : round.Consistent) {first second : Nat}
    {session other : Session} (firstKnown : round.sessions[first]? = some session)
    (secondKnown : round.sessions[second]? = some other) (same : session.id = other.id) :
    first = second := by
  have ids : (round.sessions.map (·.id)).Nodup := by
    rw [consistent.sessionIds]
    exact consistent.wellFormed.sessionIds_lt.imp Int.ne_of_lt
  exact place_eq_of_nodup ids firstKnown secondKnown same

/-- An opening is found at its place among the sessions of the round. -/
theorem Registered.getElem?_place (registered : Registered keeping history round)
    {opening : Opening} (member : opening ∈ openings history) :
    round.sessions[opening.place]? = some opening.session := by
  rw [registered.sessions, List.getElem?_map, Round.getElem?_place member, Option.map_some]

/-- What starts and finishes nothing leaves the register as it is. -/
theorem Registered.unaffected (registered : Registered keeping history round)
    (notStart : startBy played = none) (notFinish : finishBy played = none)
    (sessions : after.sessions = round.sessions)
    (rows : after.store.sessions = round.store.sessions) :
    Registered keeping (history ++ [played]) after := by
  refine ⟨?_, ?_, ?_⟩
  · rw [openings_concat_of_none notStart, sessions, registered.sessions]
  · rw [openings_concat_of_none notStart, finishes_concat_of_none notFinish, rows]
    exact registered.rows
  · rw [openings_concat_of_none notStart, finishes_concat_of_none notFinish]
    exact registered.within

/-- A session that is started comes last, and is not finished. -/
theorem Registered.started (registered : Registered keeping history round) {channel : String}
    {session row : Session} (start : startBy played = some (channel, session))
    (notFinish : finishBy played = none) (sessions : after.sessions = round.sessions ++ [session])
    (rows : after.store.sessions = round.store.sessions ++ [row])
    (isIn : row.channel = channel) (unfinished : row.finishedAt = none)
    (same : row = { session with createdAt := keeping.time session.createdAt }) :
    Registered keeping (history ++ [played]) after := by
  have new : Opening.Kept keeping (finishes history)
      ⟨channel, session, (openings history).length⟩ row := by
    refine ⟨isIn, ?_, ?_⟩
    · rw [← same, ← unfinished]
    · rw [unfinished, Option.isSome_none, eq_comm, Bool.eq_false_iff]
      intro finished
      have below := registered.within _ (List.contains_iff_mem.1 finished)
      exact absurd below (Nat.lt_irrefl _)
  refine ⟨?_, ?_, ?_⟩
  · rw [openings_concat_of_some start, sessions, registered.sessions, List.map_append]
    rfl
  · rw [openings_concat_of_some start, finishes_concat_of_none notFinish, rows]
    exact List.rel_append registered.rows (.cons new .nil)
  · rw [openings_concat_of_some start, finishes_concat_of_none notFinish, List.length_append]
    exact fun place member => Nat.lt_add_right _ (registered.within place member)

/-- A session that is finished is marked, and no other one is. -/
theorem Registered.finished (registered : Registered keeping history round)
    (consistent : round.Consistent) {place : Nat} {session : Session} {time : Instant}
    (notStart : startBy played = none) (finish : finishBy played = some place)
    (known : round.sessions[place]? = some session) (sessions : after.sessions = round.sessions)
    (store : after.store = round.store.finish session.id time) :
    Registered keeping (history ++ [played]) after := by
  refine ⟨?_, ?_, ?_⟩
  · rw [openings_concat_of_none notStart, sessions, registered.sessions]
  · rw [openings_concat_of_none notStart, finishes_concat_of_some finish, store, Board.finish,
      List.forall₂_map_right_iff]
    have placed := (List.forall₂_and_left _ _).2
      ⟨fun opening member => registered.getElem?_place member, registered.rows⟩
    refine placed.imp ?_
    rintro opening row ⟨atPlace, kept⟩
    -- The row is marked by its id, the opening by its place.
    have marked : row.id = session.id ↔ opening.place = place := by
      rw [kept.id]
      constructor
      · exact consistent.session_place_eq atPlace known
      · rintro rfl
        rw [Option.some.inj (atPlace.symm.trans known)]
    by_cases this : row.id = session.id
    · refine ⟨?_, ?_, ?_⟩
      · simpa [this] using kept.channel
      · simpa [this] using kept.same
      · simp [this, marked.1 this]
    · have other : opening.place ≠ place := mt marked.2 this
      rw [if_neg this]
      exact ⟨kept.channel, kept.same, by simp [kept.finished, other]⟩
  · rw [openings_concat_of_none notStart, finishes_concat_of_some finish]
    intro finished member
    rcases List.mem_append.1 member with earlier | last
    · exact registered.within finished earlier
    · rw [List.mem_singleton.1 last]
      obtain ⟨below, _⟩ := List.getElem?_eq_some_iff.1 known
      simpa [registered.sessions] using below

/-- What only tells something starts nothing. -/
theorem startBy_of_tells (told : round.tells move = some answer) :
    startBy (move, answer) = none := by
  cases move with
  | startSession => cases told
  | _ => rfl

/-- What only tells something finishes nothing. -/
theorem finishBy_of_tells (told : round.tells move = some answer) :
    finishBy (move, answer) = none := by
  cases move with
  | finish place =>
      simp only [tells, aboutSession] at told
      split at told
      · cases told
      · cases told
        rfl
  | _ => rfl

/-- Every move keeps the register. -/
theorem Registered.step (registered : Registered keeping history round)
    (consistent : round.Consistent) (step : Step keeping now round move answer after) :
    Registered keeping (history ++ [(move, answer)]) after := by
  cases step with
  | told told =>
      exact registered.unaffected (startBy_of_tells told) (finishBy_of_tells told) rfl rfl
  | wrote writing fresh =>
      cases writing with
      | session channel title csv => exact registered.started rfl rfl rfl rfl rfl rfl rfl
      | finish known => exact registered.finished consistent rfl rfl known rfl rfl
      | story | vote | estimate => exact registered.unaffected rfl rfl rfl rfl

/-- After every run the rows are the sessions started in it. -/
theorem Run.registered (run : Run keeping ⟨{}, [], []⟩ history after) :
    Registered keeping history after :=
  Run.induction (fun past round => Registered keeping past round)
    (fun _ _ _ _ _ _ registered consistent step => registered.step consistent step) run
    (registered_empty keeping) consistent_empty

/-- The newest unfinished row of the channel is the top of its pile. -/
theorem Registered.currentSession (registered : Registered keeping history round)
    (channel : String) :
    round.store.currentSession channel = (openIn channel history).getLast?.map fun opening =>
      { opening.session with createdAt := keeping.time opening.session.createdAt } := by
  have alike := getLast?_alike (filter_alike registered.rows
    (p := fun opening => opening.channel == channel && !(finishes history).contains opening.place)
    (q := fun row => row.channel == channel && row.finishedAt.isNone) ?_)
  · rw [Board.currentSession, openIn]
    cases found : (round.store.sessions.filter fun row =>
        row.channel == channel && row.finishedAt.isNone).getLast? with
    | none =>
        rw [found] at alike
        generalize ((openings history).filter _).getLast? = top at alike ⊢
        cases alike
        rfl
    | some row =>
        have unfinished : row.finishedAt = none := by
          have passes := (List.mem_filter.1 (List.mem_of_getLast? found)).2
          simpa using (Bool.and_eq_true_iff.1 passes).2
        rw [found] at alike
        generalize ((openings history).filter _).getLast? = top at alike ⊢
        cases alike with
        | some kept =>
            rw [Option.map_some, ← kept.same, ← unfinished]
  · intro opening row kept
    rw [kept.channel, ← kept.finished, Option.not_isSome]

end Registered

end Round

namespace Medium

variable {medium : Medium} {moves : List (Instant × Move)}

theorem registered_after (admits : medium.Admits (medium.insertions moves)) :
    Round.Registered medium.faithful.keeping (medium.history moves)
      (medium.faithful.view (medium.after moves)) :=
  (run_after_nil admits).1.registered

/-- A session stays at its place when the run goes on. -/
theorem getElem?_of_started {more : List (Instant × Move)}
    (admits : medium.Admits (medium.insertions (moves ++ more))) {place : Nat} {session : Session}
    (known : (medium.after moves).sessions[place]? = some session) :
    (medium.after (moves ++ more)).sessions[place]? = some session := by
  have before : (medium.after moves).sessions = _ :=
    (registered_after (admits_before admits)).sessions
  have later : (medium.after (moves ++ more)).sessions = _ := (registered_after admits).sessions
  rw [history_append] at later
  rw [before] at known
  rw [later]
  exact getElem?_of_prefix ((Round.openings_prefix _ _).map _) known

/-- The current session is the top of the pile. -/
theorem currentSession_eq (admits : medium.Admits (medium.insertions moves)) (channel : String) :
    Table.currentSession medium.backend channel (medium.after moves).store =
      (.ok ((Round.openIn channel (medium.history moves)).getLast?.map fun opening =>
        medium.keptSession opening.session), (medium.after moves).store) := by
  have answered := medium.faithful.currentSession (run_after_nil admits).2 channel
  have top := (registered_after admits).currentSession channel
  exact answered.trans (congrArg (fun current => (Except.ok current, _)) top)

/-- To finish a session inserts nothing, is done, and marks its row. -/
theorem after_finish (admits : medium.Admits (medium.insertions moves)) (now : Instant)
    {place : Nat} {session : Session}
    (known : (medium.after moves).sessions[place]? = some session) :
    medium.insertions (moves ++ [(now, .finish place)]) = medium.insertions moves ∧
      medium.history (moves ++ [(now, .finish place)]) =
        medium.history moves ++ [(.finish place, .done)] ∧
      medium.faithful.board (medium.after (moves ++ [(now, .finish place)])).store =
        (medium.faithful.board (medium.after moves).store).finish session.id
          (medium.faithful.keeping.time now) := by
  have writing : (medium.faithful.view (medium.after moves)).Writing (.finish place)
      (.finish session.id) fun _ _ _ => .done := .finish known
  have consistent := consistent_after admits
  have sound : medium.faithful.Sound ((Move.finish place).stamps now ++ [])
      (medium.after moves).store := (run_after_nil admits).2
  obtain ⟨id, s, played, wrote⟩ := medium.faithful.play_of_writing writing sound
    consistent.session_mem consistent.story_mem
  refine ⟨?_, ?_, ?_⟩
  · rw [insertions_append, Faithful.schedule, Faithful.schedule, Round.stamps,
      writing.tells_eq_none, List.append_nil]
    exact List.append_nil _
  · rw [history_append, Round.history, Round.playAll_single, played]
    rfl
  · rw [after_append, Round.playAll_single, played]
    exact wrote.board_eq

/-- A session that was finished is not current again, in whichever channel one asks. -/
theorem id_ne_of_finished (admits : medium.Admits (medium.insertions moves)) {place : Nat}
    {session current : Session} (finished : place ∈ Round.finishes (medium.history moves))
    (known : (medium.after moves).sessions[place]? = some session) {channel : String}
    {store : medium.State}
    (answered : Table.currentSession medium.backend channel (medium.after moves).store =
      (.ok (some current), store)) : current.id ≠ session.id := by
  intro same
  rw [currentSession_eq admits channel] at answered
  obtain ⟨opening, top, rfl⟩ := Option.map_eq_some_iff.1
    (Except.ok.inj (congrArg Prod.fst answered))
  obtain ⟨opened, passes⟩ := List.mem_filter.1 (List.mem_of_getLast? top)
  have unfinished : opening.place ∉ Round.finishes (medium.history moves) := by
    simpa using (Bool.and_eq_true_iff.1 passes).2
  have atPlace := (registered_after admits).getElem?_place opened
  have places := (consistent_after admits).session_place_eq atPlace known same
  exact unfinished (places ▸ finished)

/-- The current session of a channel is the last one started in it and not finished since.  When
it is finished the one below is current again, as it was started, and the stories and votes of all
sessions are what they were; a finished session never comes back, whatever moves follow. -/
theorem currentSession_eq_last_open (admits : medium.Admits (medium.insertions moves))
    (channel : String) :
    Table.currentSession medium.backend channel (medium.after moves).store =
        (.ok ((Round.openIn channel (medium.history moves)).getLast?.map fun opening =>
          medium.keptSession opening.session), (medium.after moves).store) ∧
      (∀ earlier newest now,
        Round.openIn channel (medium.history moves) = earlier ++ [newest] →
        let next := medium.after (moves ++ [(now, .finish newest.place)])
        Table.currentSession medium.backend channel next.store =
            (.ok (earlier.getLast?.map fun opening => medium.keptSession opening.session),
              next.store) ∧
          (∀ session, ∃ stories,
            Table.stories medium.backend session (medium.after moves).store =
                (.ok stories, (medium.after moves).store) ∧
              Table.stories medium.backend session next.store = (.ok stories, next.store)) ∧
          ∀ story, ∃ votes,
            Table.revealVotes medium.backend story (medium.after moves).store =
                (.ok votes, (medium.after moves).store) ∧
              Table.revealVotes medium.backend story next.store = (.ok votes, next.store)) ∧
      ∀ place session more,
        place ∈ Round.finishes (medium.history moves) →
        (medium.after moves).sessions[place]? = some session →
        medium.Admits (medium.insertions (moves ++ more)) →
        ∀ asked current store,
          Table.currentSession medium.backend asked (medium.after (moves ++ more)).store =
              (.ok (some current), store) →
            current.id ≠ session.id := by
  refine ⟨currentSession_eq admits channel, ?_, ?_⟩
  · intro earlier newest now pile next
    have opened : newest ∈ Round.openIn channel (medium.history moves) := by
      rw [pile]
      exact List.mem_append_right _ (List.mem_singleton_self _)
    have known := (registered_after admits).getElem?_place (List.mem_filter.1 opened).1
    obtain ⟨insertions, history, board⟩ := after_finish admits now known
    have admitsNext := insertions.symm ▸ admits
    have sound := (run_after_nil admits).2
    have soundNext := (run_after_nil admitsNext).2
    refine ⟨?_, ?_, ?_⟩
    · rw [currentSession_eq admitsNext channel, history,
        Round.openIn_concat_finish pile rfl rfl]
    · intro session
      have stories := medium.faithful.storiesFor soundNext session.id
      rw [board] at stories
      exact ⟨_, medium.faithful.storiesFor sound session.id, stories⟩
    · intro story
      have votes := medium.faithful.votesFor soundNext story.id
      rw [board] at votes
      exact ⟨_, medium.faithful.votesFor sound story.id, votes⟩
  · intro place session more finished known admitsMore asked current store answered
    have later : place ∈ Round.finishes (medium.history (moves ++ more)) := by
      rw [history_append, Round.finishes_append]
      exact List.mem_append_left _ finished
    exact id_ne_of_finished admitsMore later (getElem?_of_started admitsMore known) answered

/-- The session that this game opens first. -/
def outerSession : Session :=
  ⟨1, "eng", "Sprint", ⟨["ann"]⟩, noon, none⟩

/-- A session that it opens in another channel. -/
def dutySession : Session :=
  ⟨2, "ops", "Duty", ⟨[]⟩, noon, none⟩

/-- A session that it opens over the first one. -/
def innerSession : Session :=
  ⟨3, "eng", "Review", ⟨[]⟩, noon, none⟩

/-- A game with two open sessions in one channel; the one of the other channel is finished, and
then the older one gets a story and a vote. -/
def nested : List (Instant × Move) :=
  [(noon, .startSession "eng" "Sprint" "ann"), (noon, .startSession "ops" "Duty" ""),
    (noon, .startSession "eng" "Review" ""), (noon, .finish 1), (noon, .startStory 0 "Login"),
    (noon, .castVote 0 0 "ann" "3")]

/-- The newer session is current until it is finished, then the older one is, and the session of
the other channel never is. -/
theorem currentSession_of_nested :
    Table.currentSession database.backend "eng" (database.after nested).store =
        (.ok (some innerSession), (database.after nested).store) ∧
      Table.currentSession database.backend "eng"
          (database.after (nested ++ [(noon, .finish 2)])).store =
        (.ok (some outerSession), (database.after (nested ++ [(noon, .finish 2)])).store) ∧
      ∀ more, database.Admits (database.insertions (nested ++ more)) → ∀ asked current store,
        Table.currentSession database.backend asked (database.after (nested ++ more)).store =
            (.ok (some current), store) →
          current.id ≠ dutySession.id := by
  have admits : database.Admits (database.insertions nested) :=
    database.admits_of_clock (by decide)
  obtain ⟨current, underneath, never⟩ := currentSession_eq_last_open admits "eng"
  have pile : Round.openIn "eng" (database.history nested) =
      [⟨"eng", outerSession, 0⟩] ++ [⟨"eng", innerSession, 2⟩] := by
    decide +kernel
  have inner : database.keptSession innerSession = innerSession := by decide +kernel
  have outer : database.keptSession outerSession = outerSession := by decide +kernel
  refine ⟨?_, ?_, ?_⟩
  · simpa [pile, inner] using current
  · simpa [outer] using (underneath _ _ noon pile).1
  · intro more
    exact never 1 dutySession more (by decide +kernel) (by decide +kernel)

end Medium

end ChatRobots.Poker
