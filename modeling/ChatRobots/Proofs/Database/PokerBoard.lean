/-
Module: ChatRobots.Proofs.Database.PokerBoard
Purpose: The poker store in the database is faithful to what its rows say.
Main exports: Chronicle, Database.PokerSound, Database.pokerFaithful
-/
import ChatRobots.Database.Poker
import ChatRobots.Proofs.Calendar.InstantText
import ChatRobots.Proofs.Database.Queries
import ChatRobots.Proofs.Poker.Faithful
import ChatRobots.Proofs.Poker.RosterText

namespace ChatRobots

open Poker

/-!
Rows are inserted with increasing ids and with texts of times that never decrease, so the order of
insertion is already the order that the queries ask for.  Every row of such a table can be decoded,
except for the finishing time of a session, which no query reads: it asks for unfinished sessions
only.  What a row says is therefore given by a function that does not fail.
-/

/-- The instant that a stored text says; some instant for a text that says none. -/
def Instant.ofStored (text : String) : Instant :=
  match Instant.ofText text with
  | .ok time => time
  | .error _ => ⟨⟨1970, 1, 1, by decide⟩, 0, 0⟩

/-- The number in a column of numbers; zero for a text. -/
def Cell.number : Cell → Number
  | .real value => value
  | .text _ => Number.zero false

/-- The column holds a number. -/
def Cell.IsReal : Cell → Prop
  | .real _ => True
  | .text _ => False

def SessionRow.session (row : SessionRow) : Session :=
  ⟨row.id, row.channel, row.title, .ofCsv row.users, .ofStored row.createdAt,
    row.finishedAt.map .ofStored⟩

def StoryRow.story (row : StoryRow) : Story :=
  ⟨row.id, row.sessionId, row.title, row.estimation.map Cell.number, .ofStored row.createdAt⟩

def VoteRow.vote (row : VoteRow) : Vote :=
  ⟨row.id, row.storyId, row.user, row.value.number, .ofStored row.createdAt⟩

@[simp] theorem SessionRow.isNone_finishedAt (row : SessionRow) :
    row.session.finishedAt.isNone = row.finishedAt.isNone := by
  simp [SessionRow.session]

@[simp] theorem StoryRow.isNone_estimation (row : StoryRow) :
    row.story.estimation.isNone = row.estimation.isNone := by
  simp [StoryRow.story]

@[simp] theorem StoryRow.isSome_estimation (row : StoryRow) :
    row.story.estimation.isSome = row.estimation.isSome := by
  simp [StoryRow.story]

section Counted

variable {ρ : Type} {idOf : ρ → Int} {table : Table ρ}

/-- A row that is inserted gets the next id. -/
theorem counted_insert (counted : Counted table.lastId (table.rows.map idOf)) {row : Int → ρ}
    (id_row : ∀ id, idOf (row id) = id) :
    Counted (table.insert row).lastId ((table.insert row).rows.map idOf) := by
  simpa [Table.insert, id_row] using counted.append

/-- An update gives out no ids. -/
theorem counted_update (counted : Counted table.lastId (table.rows.map idOf)) (test : ρ → Bool)
    {change : ρ → ρ} (same : ∀ row, idOf (change row) = idOf row) :
    Counted (table.update test change).lastId ((table.update test change).rows.map idOf) := by
  have ids : (table.update test change).rows.map idOf = table.rows.map idOf := by
    rw [Table.update, List.map_map]
    apply List.map_congr_left
    intro row _
    simp only [Function.comp_apply]
    split
    · exact same row
    · rfl
  exact ids ▸ counted

end Counted

/-- A table whose rows were inserted one after another, with times that can be read and never
decrease; rows may be inserted at the times of the schedule. -/
structure Chronicle {ρ : Type} (idOf : ρ → Int) (createdAt : ρ → String) (times : List Instant)
    (table : Table ρ) : Prop where
  counted : Counted table.lastId (table.rows.map idOf)
  readable : ∀ row ∈ table.rows, Instant.ofText (createdAt row) = .ok (.ofStored (createdAt row))
  ordered : table.rows.Pairwise fun earlier later => ¬ createdAt later < createdAt earlier
  due : ∀ row ∈ table.rows, ∀ time ∈ times, ¬ time.toText < createdAt row

/-- A clock time is read from its own text. -/
theorem Instant.ofText_eq_ofStored {time : Instant} (clock : time.IsClockTime) :
    Instant.ofText time.toText = .ok (.ofStored time.toText) := by
  rw [Instant.ofStored, Instant.ofText_toText clock]

namespace Chronicle

variable {ρ : Type} {idOf : ρ → Int} {createdAt : ρ → String} {now : Instant}
  {times : List Instant} {table : Table ρ}

theorem empty : Chronicle idOf createdAt times ({} : Table ρ) :=
  ⟨.nil _, fun _ member => absurd member List.not_mem_nil, .nil,
    fun _ member => absurd member List.not_mem_nil⟩

theorem tail (chronicle : Chronicle idOf createdAt (now :: times) table) :
    Chronicle idOf createdAt times table :=
  ⟨chronicle.counted, chronicle.readable, chronicle.ordered,
    fun row member time later => chronicle.due row member time (List.mem_cons_of_mem _ later)⟩

/-- The order of insertion is the order by time and id. -/
theorem sortBy_filter (chronicle : Chronicle idOf createdAt times table) (test : ρ → Bool) :
    Database.sortBy createdAt idOf (table.rows.filter test) = table.rows.filter test := by
  apply List.mergeSort_of_pairwise
  have ids : table.rows.Pairwise fun earlier later => idOf earlier < idOf later :=
    List.pairwise_map.1 chronicle.counted.ordered
  refine ((ids.and chronicle.ordered).imp ?_).filter test
  rintro earlier later ⟨lower, notBefore⟩
  split
  · simpa using Int.le_of_lt lower
  · simpa using notBefore

/-- A row is inserted at the first time of the schedule. -/
theorem insert (chronicle : Chronicle idOf createdAt (now :: times) table)
    (steady : Steady (now :: times)) (row : Int → ρ) (id_row : ∀ id, idOf (row id) = id)
    (created_row : ∀ id, createdAt (row id) = now.toText) :
    Chronicle idOf createdAt times (table.insert row) where
  counted := counted_insert chronicle.counted id_row
  readable := by
    intro inserted member
    rcases List.mem_append.1 member with old | new
    · exact chronicle.readable inserted old
    · rw [List.mem_singleton.1 new, created_row]
      exact Instant.ofText_eq_ofStored (steady.clock now List.mem_cons_self)
  ordered := by
    refine List.pairwise_append.2 ⟨chronicle.ordered, List.pairwise_singleton _ _, ?_⟩
    intro earlier old inserted new
    rw [List.mem_singleton.1 new, created_row]
    exact chronicle.due earlier old now List.mem_cons_self
  due := by
    intro inserted member time later
    rcases List.mem_append.1 member with old | new
    · exact chronicle.due inserted old time (List.mem_cons_of_mem _ later)
    · rw [List.mem_singleton.1 new, created_row]
      exact steady.not_lt_of_mem later

/-- An update that touches neither ids nor times of insertion. -/
theorem update (chronicle : Chronicle idOf createdAt times table) (test : ρ → Bool)
    {change : ρ → ρ} (same_id : ∀ row, idOf (change row) = idOf row)
    (same_created : ∀ row, createdAt (change row) = createdAt row) :
    Chronicle idOf createdAt times (table.update test change) := by
  have created_row (row : ρ) :
      createdAt (if test row then change row else row) = createdAt row := by
    split
    · exact same_created row
    · rfl
  refine ⟨counted_update chronicle.counted test same_id, ?_, ?_, ?_⟩
  · intro updated member
    obtain ⟨row, old, rfl⟩ := List.mem_map.1 member
    rw [created_row]
    exact chronicle.readable row old
  · refine List.pairwise_map.2 (chronicle.ordered.imp ?_)
    intro earlier later notBefore
    rw [created_row, created_row]
    exact notBefore
  · intro updated member time later
    obtain ⟨row, old, rfl⟩ := List.mem_map.1 member
    rw [created_row]
    exact chronicle.due row old time later

end Chronicle

namespace Database

/-- What the rows of the poker store say. -/
def board (db : Database) : Board :=
  ⟨db.sessions.rows.map SessionRow.session, db.stories.rows.map StoryRow.story,
    db.votes.rows.map VoteRow.vote⟩

/-- A time is read back from its text, and a zero without its sign. -/
def keeping : Keeping :=
  ⟨fun time => .ofStored time.toText, Number.unsignedZero⟩

/-- The pool is open, the three tables are chronicles, and their numbers are numbers. -/
structure PokerSound (times : List Instant) (db : Database) : Prop where
  opened : db.closed = false
  steady : Steady times
  sessions : Chronicle SessionRow.id SessionRow.createdAt times db.sessions
  stories : Chronicle StoryRow.id StoryRow.createdAt times db.stories
  votes : Chronicle VoteRow.id VoteRow.createdAt times db.votes
  estimation_real : ∀ row ∈ db.stories.rows, ∀ cell ∈ row.estimation, cell.IsReal
  value_real : ∀ row ∈ db.votes.rows, row.value.IsReal

theorem pokerSound_empty {times : List Instant} (steady : Steady times) :
    PokerSound times {} :=
  ⟨rfl, steady, .empty, .empty, .empty, fun _ member => absurd member List.not_mem_nil,
    fun _ member => absurd member List.not_mem_nil⟩

/-- The last of rows that can be decoded. -/
theorem decodeLast_eq_ok {ρ α : Type} {decode : ρ → Except StoreError α} {meaning : ρ → α}
    {rows : List ρ} (decodes : ∀ row ∈ rows, decode row = .ok (meaning row)) :
    decodeLast decode rows = .ok (rows.map meaning).getLast? := by
  rw [decodeLast, List.getLast?_map]
  cases last : rows.getLast? with
  | none => rfl
  | some row =>
      have known := decodes row (List.mem_of_getLast? last)
      simp only [known]
      rfl

section Calls

variable {now : Instant} {times : List Instant} {db : Database}

theorem run_statement {α : Type} {act : Act Database α} (sound : PokerSound times db) :
    statement act db = act db :=
  statement_of_open sound.opened act

theorem run_query {α : Type} {answer : Database → Except StoreError α}
    (sound : PokerSound times db) : query answer db = (answer db, db) :=
  run_statement sound

theorem run_command {α : Type} {change : Database → α × Database} (sound : PokerSound times db) :
    command change db = (.ok (change db).1, (change db).2) :=
  run_statement sound

theorem PokerSound.tail (sound : PokerSound (now :: times) db) : PokerSound times db :=
  ⟨sound.opened, sound.steady.tail, sound.sessions.tail, sound.stories.tail, sound.votes.tail,
    sound.estimation_real, sound.value_real⟩

/-- An unfinished session can be decoded. -/
theorem decode_session (sound : PokerSound times db) {row : SessionRow}
    (member : row ∈ db.sessions.rows) (unfinished : row.finishedAt = none) :
    row.decode = .ok row.session := by
  have created := sound.sessions.readable row member
  simp [SessionRow.decode, SessionRow.session, unfinished, readInstant, created, bind, Except.bind,
    pure, Except.pure, Except.mapError]

theorem decode_story (sound : PokerSound times db) {row : StoryRow}
    (member : row ∈ db.stories.rows) : row.decode = .ok row.story := by
  have created := sound.stories.readable row member
  have real := sound.estimation_real row member
  cases given : row.estimation with
  | none =>
      simp [StoryRow.decode, StoryRow.story, given, readInstant, created, bind, Except.bind, pure,
        Except.pure, Except.mapError]
  | some cell =>
      cases cell with
      | real value =>
          simp [StoryRow.decode, StoryRow.story, given, Cell.read, Cell.number, readInstant,
            created, bind, Except.bind, pure, Except.pure, Except.mapError, Functor.map, Except.map]
      | text value => exact absurd (real _ given) id

theorem decode_vote (sound : PokerSound times db) {row : VoteRow}
    (member : row ∈ db.votes.rows) : row.decode = .ok row.vote := by
  have created := sound.votes.readable row member
  have real := sound.value_real row member
  cases given : row.value with
  | real value =>
      simp [VoteRow.decode, VoteRow.vote, given, Cell.read, Cell.number, readInstant, created,
        bind, Except.bind, pure, Except.pure, Except.mapError]
  | text value =>
      rw [given] at real
      exact absurd real id

/-- An id is found among rows if and only if it is an id of what they say. -/
theorem any_id_iff {ρ α : Type} {idOf : ρ → Int} {meaning : ρ → α} {id : α → Int}
    (same : ∀ row, id (meaning row) = idOf row) (rows : List ρ) (wanted : Int) :
    (rows.any fun row => idOf row == wanted) = true ↔ wanted ∈ (rows.map meaning).map id := by
  simp [same]

theorem mem_sessionIds_iff {sessionId : Int} : sessionId ∈ (board db).sessionIds ↔
    (db.sessions.rows.any fun row => row.id == sessionId) = true :=
  (any_id_iff (fun _ => rfl) db.sessions.rows sessionId).symm

theorem mem_storyIds_iff {storyId : Int} : storyId ∈ (board db).storyIds ↔
    (db.stories.rows.any fun row => row.id == storyId) = true :=
  (any_id_iff (fun _ => rfl) db.stories.rows storyId).symm

/-- A query for rows in order finds them in the order of insertion. -/
theorem mapM_sorted {ρ α : Type} {idOf : ρ → Int} {createdAt : ρ → String} {table : Table ρ}
    {decode : ρ → Except StoreError α} {meaning : ρ → α}
    (chronicle : Chronicle idOf createdAt times table) (test : ρ → Bool)
    (decodes : ∀ row ∈ table.rows, decode row = .ok (meaning row)) :
    (sortBy createdAt idOf (table.rows.filter test)).mapM decode =
      .ok ((table.rows.filter test).map meaning) := by
  rw [chronicle.sortBy_filter]
  exact mapM_eq_ok fun row member => decodes row (List.mem_of_mem_filter member)

/-- A query for the newest row finds the one inserted last. -/
theorem decodeLast_sorted {ρ α : Type} {idOf : ρ → Int} {createdAt : ρ → String} {table : Table ρ}
    {decode : ρ → Except StoreError α} {meaning : ρ → α}
    (chronicle : Chronicle idOf createdAt times table) (test : ρ → Bool)
    (decodes : ∀ row ∈ table.rows, test row = true → decode row = .ok (meaning row)) :
    decodeLast decode (sortBy createdAt idOf (table.rows.filter test)) =
      .ok ((table.rows.filter test).map meaning).getLast? := by
  rw [chronicle.sortBy_filter]
  apply decodeLast_eq_ok
  intro row member
  obtain ⟨inTable, passes⟩ := List.mem_filter.1 member
  exact decodes row inTable passes

theorem run_currentSession (sound : PokerSound times db) (channel : String) :
    currentSession channel db = (.ok ((board db).currentSession channel), db) := by
  have newest := decodeLast_sorted sound.sessions
    (fun row => row.channel == channel && row.finishedAt.isNone)
    fun row member passes => decode_session sound member (by simp_all)
  simp only [currentSession, run_query sound, sessionsOrdered, newest, board,
    Board.currentSession, List.filter_map, Function.comp_def, SessionRow.isNone_finishedAt]
  rfl

theorem run_currentStory (sound : PokerSound times db) (sessionId : Int) :
    currentStory sessionId db = (.ok ((board db).currentStory sessionId), db) := by
  have newest := decodeLast_sorted sound.stories
    (fun row => row.sessionId == sessionId && row.estimation.isNone)
    fun row member _ => decode_story sound member
  simp only [currentStory, run_query sound, storiesOrdered, newest, board,
    Board.currentStory, List.filter_map, Function.comp_def, StoryRow.isNone_estimation]
  rfl

theorem run_votesFor (sound : PokerSound times db) (storyId : Int) :
    votesFor storyId db = (.ok ((board db).votesOn storyId), db) := by
  have votes := mapM_sorted sound.votes (·.storyId == storyId)
    fun row member => decode_vote sound member
  simp only [votesFor, run_query sound, votesOrdered, votes, board, Board.votesOn,
    List.filter_map]
  rfl

theorem run_storiesFor (sound : PokerSound times db) (sessionId : Int) :
    storiesFor sessionId db = (.ok ((board db).storiesOf sessionId), db) := by
  have stories := mapM_sorted sound.stories (·.sessionId == sessionId)
    fun row member => decode_story sound member
  simp only [storiesFor, run_query sound, storiesOrdered, stories, board, Board.storiesOf,
    List.filter_map]
  rfl

theorem run_estimatedStoriesFor (sound : PokerSound times db) (sessionId : Int) :
    estimatedStoriesFor sessionId db = (.ok ((board db).estimatedOf sessionId), db) := by
  have stories := mapM_sorted sound.stories
    (fun row => row.sessionId == sessionId && row.estimation.isSome)
    fun row member => decode_story sound member
  simp only [estimatedStoriesFor, run_query sound, storiesOrdered, stories, board,
    Board.estimatedOf, List.filter_map, Function.comp_def, StoryRow.isSome_estimation]
  rfl

end Calls

section Writes

variable {now : Instant} {times : List Instant} {db : Database}

/-- The next id of a table is above all ids that its rows have. -/
theorem fresh_of_chronicle {ρ α : Type} {idOf : ρ → Int} {createdAt : ρ → String}
    {table : Table ρ} {meaning : ρ → α} {id : α → Int}
    (chronicle : Chronicle idOf createdAt times table) (same : ∀ row, id (meaning row) = idOf row) :
    ∀ earlier ∈ (table.rows.map meaning).map id, earlier < table.lastId + 1 := by
  intro earlier member
  rw [List.map_map] at member
  obtain ⟨row, inTable, rfl⟩ := List.mem_map.1 member
  rw [Function.comp_apply, same]
  exact chronicle.counted.fresh _ (List.mem_map_of_mem inTable)

theorem run_startSession (sound : PokerSound (now :: times) db) (channel title csv : String) :
    ∃ id db', startSession now channel title csv db =
        (.ok ⟨id, channel, title, .ofCsv csv, now, none⟩, db') ∧
      Writes board keeping PokerSound now times (.session channel title (.ofCsv csv)) id db
        db' := by
  refine ⟨_, _, run_command sound, fresh_of_chronicle sound.sessions fun _ => rfl, ?_, ?_⟩
  · simp [board, Board.apply, Table.insert, SessionRow.session, keeping,
      Roster.ofCsv_toCsv (Roster.ofCsv_wellFormed csv)]
  · have inserted := sound.sessions.insert sound.steady
      (fun id => ⟨id, channel, title, (Roster.ofCsv csv).toCsv, now.toText, none⟩)
      (fun _ => rfl) (fun _ => rfl)
    exact ⟨sound.opened, sound.steady.tail, inserted, sound.stories.tail, sound.votes.tail,
      sound.estimation_real, sound.value_real⟩

theorem run_startStory (sound : PokerSound (now :: times) db) {sessionId : Int}
    (known : sessionId ∈ (board db).sessionIds) (title : String) :
    ∃ id db', startStory now sessionId title db =
        (.ok ⟨id, sessionId, title, none, now⟩, db') ∧
      Writes board keeping PokerSound now times (.story sessionId title) id db db' := by
  refine ⟨db.stories.lastId + 1, _,
    (run_statement sound).trans (if_pos (mem_sessionIds_iff.1 known)),
    fresh_of_chronicle sound.stories fun _ => rfl, ?_, ?_⟩
  · simp [board, Board.apply, Table.insert, StoryRow.story, keeping]
  · have inserted := sound.stories.insert sound.steady
      (fun id => ⟨id, sessionId, title, none, now.toText⟩) (fun _ => rfl) (fun _ => rfl)
    refine ⟨sound.opened, sound.steady.tail, sound.sessions.tail, inserted, sound.votes.tail, ?_,
      sound.value_real⟩
    intro row member
    rcases List.mem_append.1 member with old | new
    · exact sound.estimation_real row old
    · rw [List.mem_singleton.1 new]
      exact fun _ none => absurd none (by simp)

theorem run_castVote (sound : PokerSound (now :: times) db) {storyId : Int}
    (known : storyId ∈ (board db).storyIds) (user : String) {value : String} {number : Number}
    (parsed : parseNumber "vote" value = .ok number) :
    ∃ id db', castVote now storyId user value db =
        (.ok ⟨id, storyId, user, number, now⟩, db') ∧
      Writes board keeping PokerSound now times (.vote storyId user number) id db db' := by
  have read : (ExceptT.mk (pure (parseNumber "vote" value)) : Act Database Number) db =
      (.ok number, db) := by rw [parsed]; rfl
  refine ⟨db.votes.lastId + 1, _,
    (run_bind_of_ok read).trans ((run_statement sound).trans (if_pos (mem_storyIds_iff.1 known))),
    fresh_of_chronicle sound.votes fun _ => rfl, ?_, ?_⟩
  · simp [board, Board.apply, Table.insert, VoteRow.vote, keeping, Cell.ofNumber, Cell.number]
  · have inserted := sound.votes.insert sound.steady
      (fun id => ⟨id, storyId, user, Cell.ofNumber number, now.toText⟩)
      (fun _ => rfl) (fun _ => rfl)
    refine ⟨sound.opened, sound.steady.tail, sound.sessions.tail, sound.stories.tail, inserted,
      sound.estimation_real, ?_⟩
    intro row member
    rcases List.mem_append.1 member with old | new
    · exact sound.value_real row old
    · rw [List.mem_singleton.1 new]
      exact trivial

theorem run_setEstimation (sound : PokerSound times db) (now : Instant) (storyId : Int)
    {hours : String} {number : Number} (parsed : parseNumber "estimation" hours = .ok number) :
    ∃ id db', setEstimation storyId hours db = (.ok (), db') ∧
      Writes board keeping PokerSound now times (.estimate storyId number) id db db' := by
  have read : (ExceptT.mk (pure (parseNumber "estimation" hours)) : Act Database Number) db =
      (.ok number, db) := by rw [parsed]; rfl
  refine ⟨0, _, (run_bind_of_ok read).trans (run_command sound), trivial, ?_, ?_⟩
  · simp only [board, Board.apply, Board.estimate, Table.update, List.map_map]
    congr 1
    apply List.map_congr_left
    intro row _
    simp only [Function.comp_apply, beq_iff_eq]
    split <;> simp_all [StoryRow.story, keeping, Cell.ofNumber, Cell.number]
  · refine ⟨sound.opened, sound.steady, sound.sessions,
      sound.stories.update _ (fun _ => rfl) (fun _ => rfl), sound.votes, ?_, sound.value_real⟩
    intro updated member
    obtain ⟨row, old, rfl⟩ := List.mem_map.1 member
    split
    · intro cell given
      cases given
      exact trivial
    · exact sound.estimation_real row old

theorem run_finishSession (sound : PokerSound times db) (now : Instant) (sessionId : Int) :
    ∃ id db', finishSession now sessionId db = (.ok (), db') ∧
      Writes board keeping PokerSound now times (.finish sessionId) id db db' := by
  refine ⟨0, _, run_command sound, trivial, ?_, ?_⟩
  · simp only [board, Board.apply, Board.finish, Table.update, List.map_map]
    congr 1
    apply List.map_congr_left
    intro row _
    simp only [Function.comp_apply, beq_iff_eq]
    split <;> simp_all [SessionRow.session, keeping]
  · exact ⟨sound.opened, sound.steady,
      sound.sessions.update _ (fun _ => rfl) (fun _ => rfl), sound.stories, sound.votes,
      sound.estimation_real, sound.value_real⟩

end Writes

/-- The poker store in the database shows what its rows say. -/
def pokerFaithful : Faithful pokerBackend where
  board := board
  keeping := keeping
  Sound := PokerSound
  sound_tail := PokerSound.tail
  startSession := run_startSession
  currentSession := run_currentSession
  startStory := run_startStory
  currentStory := run_currentStory
  castVote := run_castVote
  castVote_error _ _ _ _ _ _ refused := run_bind_of_error (by rw [refused]; rfl)
  votesFor := run_votesFor
  setEstimation := run_setEstimation
  setEstimation_error _ _ _ _ refused := run_bind_of_error (by rw [refused]; rfl)
  finishSession := run_finishSession
  storiesFor := run_storiesFor
  estimatedStoriesFor := run_estimatedStoriesFor

end Database

end ChatRobots
