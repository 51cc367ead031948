/-
Module: ChatRobots.Proofs.Poker.SessionsReread
Purpose: A session that is read again expects the voters that it was started with.
Main exports: SessionLine.Tells.of_becomes, Bookkeeping.Rereading, Backend.Respects.runAll,
  Database.keepsOpen, Medium.roster_survives
-/
import ChatRobots.Proofs.Poker.WithoutFailures

namespace ChatRobots

open Poker

/-!
A session is answered when it is started, and again whenever it is the current one of its channel.
The second time it is put together from its row, and the database has the roster in the row as a
text.  A row keeps what was written into it, so the expected voters are the same ones as long as
the text of a roster gives the roster back.

Whether a session is current can depend on the clock; what is read of it when it is current does
not.  So the times of the calls may be any, except where a session is found at once.
-/

namespace Poker

/-- A mark on a row does not make it the row of another session. -/
theorem SessionLine.Tells.of_becomes {hand : Hand} {calls : List (Instant × Call)}
    {line line' : SessionLine} {session : Session} (tells : line.Tells session)
    (becomes : line.Becomes hand calls line') : line'.Tells session := by
  cases becomes with
  | same => exact tells
  | marked => exact ⟨tells.id_eq, tells.channel_eq, tells.title_eq, tells.roster_eq⟩

variable {σ : Type} {store : Backend σ}

/-- Of a session, a vote needs to know the roster only. -/
theorem Table.castVote_of_roster {session again : Session} (same : again.roster = session.roster)
    (now : Instant) (story : Story) (user value : String) :
    Table.castVote store now again story user value =
      Table.castVote store now session story user value := by
  simp only [Table.castVote, same]

/-- Sessions that are answered, when they are started and when they are current, are those of the
rows. -/
structure Bookkeeping.Rereading (books : Bookkeeping store) : Prop where
  startSession (s : σ) (now : Instant) (channel title csv : String) :
    Attempt s (fun session after => session.channel = channel ∧ session.title = title ∧
        session.roster = .ofCsv csv ∧ ∃ line ∈ (books.ledger after).sessions, line.Tells session)
      (store.startSession now channel title csv s)
  currentSession {s : σ} {channel : String} {session : Session}
    (current : (store.currentSession channel s).1 = .ok (some session)) :
    ∃ line ∈ (books.ledger s).sessions, line.Tells session

/-- A session that is read again, whatever was called since, is the one that it was. -/
theorem Bookkeeping.Rereading.read_again {books : Bookkeeping store} (rereading : books.Rereading)
    {s : σ} (sound : books.Sound s) {line : SessionLine}
    (member : line ∈ (books.ledger s).sessions) {session again : Session}
    (tells : line.Tells session) {calls : List (Instant × Call)} {channel : String}
    (current : (store.currentSession channel (Call.runAll store calls s).2).1 = .ok (some again))
    (same : again.id = session.id) :
    again.channel = session.channel ∧ again.title = session.title ∧
      again.roster = session.roster := by
  obtain ⟨soundLater, continued⟩ := Bookkeeping.continues_runAll sound calls
  obtain ⟨kept, keptMember, becomes⟩ := continued.sessions.mem member
  have keptTells := tells.of_becomes becomes
  obtain ⟨found, foundMember, foundTells⟩ := rereading.currentSession current
  -- Ids are given out once, so the row that was found is the one that was kept.
  obtain rfl : found = kept :=
    List.inj_on_of_nodup_map (books.numbered soundLater).sessions foundMember keptMember
      (foundTells.id_eq.symm.trans (same.trans keptTells.id_eq))
  exact ⟨foundTells.channel_eq.trans keptTells.channel_eq.symm,
    foundTells.title_eq.trans keptTells.title_eq.symm,
    foundTells.roster_eq.trans keptTells.roster_eq.symm⟩

section Respects

variable {R : σ → σ → Prop} (respects : store.Respects R)
include respects

/-- What every kind of call preserves a call preserves, whichever it is. -/
theorem Backend.Respects.call (now : Instant) (call : Call) : Moves R (call.run store now) := by
  cases call with
  | startSession channel title csv => exact (respects.startSession now channel title csv).map _
  | currentSession channel => exact (respects.currentSession channel).map _
  | startStory sessionId title => exact (respects.startStory now sessionId title).map _
  | currentStory sessionId => exact (respects.currentStory sessionId).map _
  | castVote storyId user value => exact (respects.castVote now storyId user value).map _
  | votesFor storyId => exact (respects.votesFor storyId).map _
  | setEstimation storyId hours => exact (respects.setEstimation storyId hours).map _
  | finishSession sessionId => exact (respects.finishSession now sessionId).map _
  | storiesFor sessionId => exact (respects.storiesFor sessionId).map _
  | estimatedStoriesFor sessionId => exact (respects.estimatedStoriesFor sessionId).map _

theorem Backend.Respects.runAll (calls : List (Instant × Call)) (s : σ) :
    R s (Call.runAll store calls s).2 := by
  induction calls generalizing s with
  | nil => exact respects.refl s
  | cons first rest ih =>
      obtain ⟨now, call⟩ := first
      exact respects.trans (respects.call now call s) (ih _)

end Respects

theorem Memory.rereading : Memory.bookkeeping.Rereading where
  startSession memory now channel title csv := by
    apply attempt_guarded
    exact ⟨rfl, rfl, rfl, _, List.mem_map_of_mem (List.mem_append_right _ List.mem_cons_self),
      rfl, rfl, rfl, rfl⟩
  currentSession current := by
    obtain ⟨member, -⟩ := mem_of_findLast? (ask_fst current)
    exact ⟨_, List.mem_map_of_mem member, rfl, rfl, rfl, rfl⟩

end Poker

namespace Database

theorem rereading : pokerBookkeeping.Rereading where
  startSession db now channel title csv := by
    simp only [pokerBackend, startSession]
    apply attempt_command
    refine ⟨rfl, rfl, rfl, _,
      List.mem_map_of_mem (List.mem_append_right _ List.mem_cons_self), rfl, rfl, rfl, ?_⟩
    exact (Roster.ofCsv_toCsv (Roster.ofCsv_wellFormed csv)).symm
  currentSession current := by
    obtain ⟨row, member, decoded⟩ := row_of_decodeLast (query_fst current)
    exact ⟨_, List.mem_map_of_mem (List.mem_of_mem_filter member), tells_of_decode decoded⟩

section Open

variable {α : Type}

/-- The pool is open after this if it was before. -/
def SamePool (before after : Database) : Prop :=
  after.closed = before.closed

theorem samePool_trans ⦃first second third : Database⦄ (earlier : SamePool first second)
    (later : SamePool second third) : SamePool first third :=
  later.trans earlier

theorem samePool_statement {act : Act Database α} (moves : Moves SamePool act) :
    Moves SamePool (statement act) := by
  intro db
  unfold statement
  split
  · rfl
  · exact moves db

theorem samePool_query (answer : Database → Except StoreError α) :
    Moves SamePool (query answer) :=
  samePool_statement fun _ => rfl

/-- No call closes the pool. -/
theorem keepsOpen : pokerBackend.Respects SamePool where
  refl _ := rfl
  trans := samePool_trans
  currentSession _ := samePool_query _
  currentStory _ := samePool_query _
  votesFor _ := samePool_query _
  storiesFor _ := samePool_query _
  estimatedStoriesFor _ := samePool_query _
  startSession _ _ _ _ := samePool_statement fun _ => rfl
  startStory _ _ _ := by
    apply samePool_statement
    intro db
    dsimp only
    split <;> rfl
  castVote _ _ _ _ := by
    refine Moves.bind (fun _ => rfl) samePool_trans fun _ => samePool_statement fun db => ?_
    split <;> rfl
  setEstimation _ _ :=
    Moves.bind (fun _ => rfl) samePool_trans fun _ => samePool_statement fun _ => rfl
  finishSession _ _ := samePool_statement fun _ => rfl

end Open

end Database

namespace Poker.Medium

theorem books_rereading (medium : Medium) : medium.books.Rereading := by
  cases medium with
  | memory => exact Memory.rereading
  | database => exact Database.rereading

variable {medium : Medium} {calls : List (Instant × Call)} {now : Instant}
  {channel title csv : String}

/-- Whatever was called before, a session can be started. -/
theorem startSession_afterCalls (medium : Medium) (calls : List (Instant × Call)) (now : Instant)
    (channel title csv : String) :
    ∃ session store, medium.backend.startSession now channel title csv (medium.afterCalls calls) =
      (.ok session, store) := by
  cases medium with
  | memory =>
      have healthy : Memory.faithful.Sound [now] (memory.afterCalls calls) :=
        memory.sound_afterCalls calls
      obtain ⟨_, store, started, _⟩ := Memory.faithful.startSession healthy channel title csv
      exact ⟨_, store, started⟩
  | database =>
      have opened : (database.afterCalls calls).closed = false :=
        Database.keepsOpen.runAll calls database.empty
      simp only [backend, Database.pokerBackend, Database.startSession]
      exact ⟨_, _, Database.command_of_open opened _⟩

/-- By a clock that never goes back, a session is the current one as soon as it is started. -/
theorem currentSession_of_started (admits : medium.Admits (calls.map (·.1) ++ [now]))
    {session : Session} {store : medium.State}
    (started : medium.backend.startSession now channel title csv (medium.afterCalls calls) =
      (.ok session, store)) :
    medium.backend.currentSession channel store =
      (.ok (some (medium.keptSession session)), store) := by
  have due : medium.faithful.Sound [now] (medium.afterCalls calls) :=
    medium.timeless.sound_runAll (sound_empty admits)
  obtain ⟨id, after, answered, wrote⟩ := medium.faithful.startSession due channel title csv
  rw [started] at answered
  cases answered
  rw [medium.faithful.currentSession wrote.sound, wrote.board_eq]
  simp [Board.apply, Board.currentSession, keptSession]

/-- A roster survives being written.  Its names are filled, trimmed and free of commas, so its text
gives it back and belongs to no other roster; and texts with a comma between them name together
whom they name apart.  So a session is the same whenever it is read again, in memory and in the
database, and a vote that is cast with it waits for the same voters. -/
theorem roster_survives (medium : Medium) :
    (∀ csv, (Roster.ofCsv csv).WellFormed ∧ Roster.ofCsv (Roster.ofCsv csv).toCsv = .ofCsv csv) ∧
    (∀ csv csv', (Roster.ofCsv csv).toCsv = (Roster.ofCsv csv').toCsv →
      Roster.ofCsv csv = .ofCsv csv') ∧
    (∀ csv csv', (Roster.ofCsv (csv ++ "," ++ csv')).users =
      (Roster.ofCsv csv).users ++ (Roster.ofCsv csv').users) ∧
    ∀ calls now channel title csv, ∃ session store,
      medium.backend.startSession now channel title csv (medium.afterCalls calls) =
          (.ok session, store) ∧
        session.channel = channel ∧ session.title = title ∧ session.roster = .ofCsv csv ∧
        (medium.Admits (calls.map (·.1) ++ [now]) →
          medium.backend.currentSession channel store =
            (.ok (some (medium.keptSession session)), store)) ∧
        ∀ later asked again,
          (medium.backend.currentSession asked
            (Call.runAll medium.backend later store).2).1 = .ok (some again) →
          again.id = session.id →
            again.channel = channel ∧ again.title = title ∧ again.roster = session.roster ∧
              ∀ time story user value,
                Table.castVote medium.backend time again story user value =
                  Table.castVote medium.backend time session story user value := by
  have wellFormed := Roster.ofCsv_wellFormed
  refine ⟨fun csv => ⟨wellFormed csv, Roster.ofCsv_toCsv (wellFormed csv)⟩,
    fun csv csv' => (Roster.toCsv_inj (wellFormed csv) (wellFormed csv')).1,
    Roster.users_ofCsv_append, ?_⟩
  intro calls now channel title csv
  obtain ⟨session, store, started⟩ := medium.startSession_afterCalls calls now channel title csv
  obtain ⟨inChannel, titled, expects, line, member, tells⟩ :=
    (medium.books_rereading.startSession _ now channel title csv).of_ok started
  refine ⟨session, store, started, inChannel, titled, expects,
    fun admits => currentSession_of_started admits started, ?_⟩
  intro later asked again current same
  have sound : medium.books.Sound store := by
    have kept := medium.books.respects.startSession now channel title csv (medium.afterCalls calls)
    rw [started] at kept
    exact kept (medium.sound_afterCalls calls)
  obtain ⟨sameChannel, sameTitle, sameRoster⟩ :=
    medium.books_rereading.read_again sound member tells current same
  exact ⟨sameChannel.trans inChannel, sameTitle.trans titled, sameRoster,
    fun time story user value => Table.castVote_of_roster sameRoster time story user value⟩

end Poker.Medium

end ChatRobots
