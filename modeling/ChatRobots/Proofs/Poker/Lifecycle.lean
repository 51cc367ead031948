/-
Module: ChatRobots.Proofs.Poker.Lifecycle
Purpose: What becomes of the rows of a store while calls are made on it.
Main exports: SessionLine.Becomes, StoryLine.Becomes, Ledger.Continues, RowKind, issued,
  Bookkeeping.Issuing, Bookkeeping.Listing, Bookkeeping.continues_run,
  Bookkeeping.continues_runAll, Bookkeeping.Issuing.ids_runAll
-/
import Mathlib.Data.List.Nodup
import ChatRobots.Poker.Call
import ChatRobots.Proofs.CallRuns
import ChatRobots.Proofs.Growth
import ChatRobots.Proofs.Poker.Ledger

namespace ChatRobots.Poker

/-!
A row stays where it was put, with what was written into it, except for one mark: a session gets a
finishing time and a story an estimation.  A mark may be written over by another one but is never
taken away, and only a call that names the row by its id writes one.

The relations below say this of two ledgers and of the calls that were made between them.  They are
kept by one call and put together along a run, so nothing has to be known about the run as a whole.
-/

/-- What may become of the row of a session while these calls are made: one that finishes it puts
its time on the row. -/
def SessionLine.Becomes (hand : Hand) (calls : List (Instant × Call)) :
    SessionLine → SessionLine → Prop :=
  Marked (fun line time => { line with finishedAt := some time }) fun line time =>
    ∃ now, (now, .finishSession line.id) ∈ calls ∧ time = hand.time now

/-- What may become of the row of a story while these calls are made: one that estimates it puts its
number on the row. -/
def StoryLine.Becomes (hand : Hand) (calls : List (Instant × Call)) :
    StoryLine → StoryLine → Prop :=
  Marked (fun line hours => { line with estimation := some hours }) fun line hours =>
    ∃ now text number, (now, .setEstimation line.id text) ∈ calls ∧
      parseNumber "estimation" text = .ok number ∧ hours = hand.number number

/-- What may become of all rows while these calls are made. -/
structure Ledger.Continues (hand : Hand) (calls : List (Instant × Call))
    (before after : Ledger) : Prop where
  sessions : Grows (SessionLine.Becomes hand calls) before.sessions after.sessions
  stories : Grows (StoryLine.Becomes hand calls) before.stories after.stories
  votes : before.votes <+: after.votes

section Lines

variable {hand : Hand} {calls more : List (Instant × Call)}

namespace SessionLine

variable {before between after : SessionLine}

theorem Becomes.id_eq (becomes : before.Becomes hand calls after) : after.id = before.id :=
  becomes.field_eq fun _ _ => rfl

/-- What is finished stays finished. -/
theorem Becomes.isSome_finishedAt (becomes : before.Becomes hand calls after)
    (finished : before.finishedAt.isSome) : after.finishedAt.isSome :=
  becomes.isSome_field (fun _ _ => rfl) finished

theorem Becomes.trans (first : before.Becomes hand calls between)
    (second : between.Becomes hand more after) : before.Becomes hand (calls ++ more) after := by
  refine Marked.trans first second (fun _ _ _ => rfl) ?_ ?_ fun _ _ _ called => called
  · rintro line time ⟨now, called, same⟩
    exact ⟨now, List.mem_append_left more called, same⟩
  · rintro line time ⟨now, called, same⟩
    exact ⟨now, List.mem_append_right calls called, same⟩

end SessionLine

namespace StoryLine

variable {before between after : StoryLine}

theorem Becomes.id_eq (becomes : before.Becomes hand calls after) : after.id = before.id :=
  becomes.field_eq fun _ _ => rfl

theorem Becomes.sessionId_eq (becomes : before.Becomes hand calls after) :
    after.sessionId = before.sessionId :=
  becomes.field_eq fun _ _ => rfl

theorem Becomes.createdAt_eq (becomes : before.Becomes hand calls after) :
    after.createdAt = before.createdAt :=
  becomes.field_eq fun _ _ => rfl

/-- What is estimated stays estimated. -/
theorem Becomes.isSome_estimation (becomes : before.Becomes hand calls after)
    (estimated : before.estimation.isSome) : after.estimation.isSome :=
  becomes.isSome_field (fun _ _ => rfl) estimated

theorem Becomes.trans (first : before.Becomes hand calls between)
    (second : between.Becomes hand more after) : before.Becomes hand (calls ++ more) after := by
  refine Marked.trans first second (fun _ _ _ => rfl) ?_ ?_ fun _ _ _ called => called
  · rintro line hours ⟨now, text, number, called, read⟩
    exact ⟨now, text, number, List.mem_append_left more called, read⟩
  · rintro line hours ⟨now, text, number, called, read⟩
    exact ⟨now, text, number, List.mem_append_right calls called, read⟩

end StoryLine

namespace Ledger

variable {before between after : Ledger}

theorem Continues.refl (hand : Hand) (calls : List (Instant × Call)) (ledger : Ledger) :
    ledger.Continues hand calls ledger :=
  ⟨.refl .same _, .refl .same _, List.prefix_rfl⟩

theorem Continues.trans (first : before.Continues hand calls between)
    (second : between.Continues hand more after) :
    before.Continues hand (calls ++ more) after where
  sessions := first.sessions.trans second.sessions fun _ _ _ => .trans
  stories := first.stories.trans second.stories fun _ _ _ => .trans
  votes := first.votes.trans second.votes

end Ledger

end Lines

/-- A mark is written by a call that names the row. -/
def Change.CalledFor (now : Instant) (calls : List (Instant × Call)) : Change → Prop
  | session .. => True
  | story .. => True
  | vote .. => True
  | estimate storyId number => ∃ hours, (now, .setEstimation storyId hours) ∈ calls ∧
      parseNumber "estimation" hours = .ok number
  | finish sessionId => (now, .finishSession sessionId) ∈ calls

/-- One change continues the ledger: it puts a row at the end, or marks the rows with its id. -/
theorem Ledger.continues_write {now : Instant} {calls : List (Instant × Call)} {change : Change}
    (called : change.CalledFor now calls) (hand : Hand) (id : Int) (ledger : Ledger) :
    ledger.Continues hand calls (ledger.write hand now id change) := by
  have unchanged := Continues.refl hand calls ledger
  cases change with
  | session channel title roster =>
      exact ⟨.append .same _ _, unchanged.stories, unchanged.votes⟩
  | story sessionId title =>
      exact ⟨unchanged.sessions, .append .same _ _, unchanged.votes⟩
  | vote storyId user value =>
      exact ⟨unchanged.sessions, unchanged.stories, List.prefix_append _ _⟩
  | estimate storyId number =>
      obtain ⟨hours, called, read⟩ := called
      refine ⟨unchanged.sessions, .mapped ?_ _, unchanged.votes⟩
      intro line
      split
      · rename_i own
        subst own
        exact .marked line ⟨now, hours, number, called, read, rfl⟩
      · exact .same line
  | finish sessionId =>
      refine ⟨.mapped ?_ _, unchanged.stories, unchanged.votes⟩
      intro line
      split
      · rename_i own
        subst own
        exact .marked line ⟨now, called, rfl⟩
      · exact .same line

/-- The kinds of rows that calls insert. -/
inductive RowKind where
  | session
  | story
  | vote
deriving DecidableEq, Repr

/-- The ids of all rows of one kind, in the order of insertion. -/
def Ledger.ids (ledger : Ledger) : RowKind → List Int
  | .session => ledger.sessions.map (·.id)
  | .story => ledger.stories.map (·.id)
  | .vote => ledger.votes.map (·.id)

theorem Ledger.Numbered.ids {ledger : Ledger} (numbered : ledger.Numbered) (kind : RowKind) :
    (ledger.ids kind).Nodup := by
  cases kind with
  | session => exact numbered.sessions
  | story => exact numbered.stories
  | vote => exact numbered.votes

/-- An estimation leaves every id as it is. -/
theorem Ledger.ids_estimate (ledger : Ledger) (hand : Hand) (now : Instant) (id storyId : Int)
    (number : Number) (kind : RowKind) :
    (ledger.write hand now id (.estimate storyId number)).ids kind = ledger.ids kind := by
  cases kind with
  | story =>
      simp only [ids, write, List.map_map]
      apply List.map_congr_left
      intro line _
      simp only [Function.comp_apply]
      split <;> rfl
  | session | vote => rfl

theorem Ledger.ids_finish (ledger : Ledger) (hand : Hand) (now : Instant) (id sessionId : Int)
    (kind : RowKind) :
    (ledger.write hand now id (.finish sessionId)).ids kind = ledger.ids kind := by
  cases kind with
  | session =>
      simp only [ids, write, List.map_map]
      apply List.map_congr_left
      intro line _
      simp only [Function.comp_apply]
      split <;> rfl
  | story | vote => rfl

/-- The id that an answer tells of a new row of this kind. -/
def CallAnswer.issued (kind : RowKind) : CallAnswer → List Int
  | .session new => if kind = .session then [new.id] else []
  | .story new => if kind = .story then [new.id] else []
  | .vote new => if kind = .vote then [new.id] else []
  | .session? _ => []
  | .story? _ => []
  | .votes _ => []
  | .done => []
  | .stories _ => []

/-- The ids that these answers tell of new rows of this kind, one after another. -/
def issued (kind : RowKind) (answers : List (Except StoreError CallAnswer)) : List Int :=
  answers.flatMap fun
    | .ok answer => answer.issued kind
    | .error _ => []

variable {σ : Type} {store : Backend σ}

/-- New rows get the ids that the calls answer with. -/
structure Bookkeeping.Issuing (books : Bookkeeping store) : Prop where
  startSession (s : σ) (now : Instant) (channel title csv : String) (kind : RowKind) :
    Attempt s (fun session after => (books.ledger after).ids kind =
        (books.ledger s).ids kind ++ (CallAnswer.session session).issued kind)
      (store.startSession now channel title csv s)
  startStory (s : σ) (now : Instant) (sessionId : Int) (title : String) (kind : RowKind) :
    Attempt s (fun story after => (books.ledger after).ids kind =
        (books.ledger s).ids kind ++ (CallAnswer.story story).issued kind)
      (store.startStory now sessionId title s)
  castVote (s : σ) (now : Instant) (storyId : Int) (user value : String) (kind : RowKind) :
    Attempt s (fun vote after => (books.ledger after).ids kind =
        (books.ledger s).ids kind ++ (CallAnswer.vote vote).issued kind)
      (store.castVote now storyId user value s)

/-- What may become of a story that is read again. -/
inductive Story.Becomes : Story → Story → Prop where
  | same (story : Story) : Becomes story story
  | estimated (story : Story) (hours : Number) :
      Becomes story { story with estimation := some hours }

/-- Lists that are read again keep what was in them, and its order. -/
structure Bookkeeping.Listing (books : Bookkeeping store) : Prop where
  votesFor {s s' : σ} {storyId : Int} {votes votes' : List Vote} (sound : books.Sound s')
    (grown : (books.ledger s).votes <+: (books.ledger s').votes)
    (read : (store.votesFor storyId s).1 = .ok votes)
    (again : (store.votesFor storyId s').1 = .ok votes') : votes.Sublist votes'
  storiesFor {s s' : σ} {hand : Hand} {calls : List (Instant × Call)} {sessionId : Int}
    {stories stories' : List Story} (sound : books.Sound s')
    (grown : Grows (StoryLine.Becomes hand calls) (books.ledger s).stories
      (books.ledger s').stories)
    (read : (store.storiesFor sessionId s).1 = .ok stories)
    (again : (store.storiesFor sessionId s').1 = .ok stories') :
    List.SublistForall₂ Story.Becomes stories stories'

namespace Bookkeeping

variable (books : Bookkeeping store) {s : σ}

section Attempts

variable {α : Type} {act : Act σ α} {done : α → σ → Prop}

/-- A call after which the books go on, whatever comes of it. -/
theorem continues_of_attempt (now : Instant) {calls : List (Instant × Call)}
    (attempt : Attempt s done (act s)) (sound : books.Sound s)
    (wrote : ∀ answer after, done answer after → ∃ change id, change.CalledFor now calls ∧
      Written books.ledger books.hand books.Sound now change id s after) (use : α → CallAnswer) :
    books.Sound ((use <$> act) s).2 ∧
      (books.ledger s).Continues books.hand calls (books.ledger ((use <$> act) s).2) := by
  rw [run_map]
  refine attempt.state (P := fun after => books.Sound after ∧
    (books.ledger s).Continues books.hand calls (books.ledger after)) ⟨sound, .refl _ _ _⟩ ?_
  intro answer after did
  obtain ⟨change, id, called, written⟩ := wrote answer after did
  refine ⟨written.sound, ?_⟩
  rw [written.ledger_eq]
  exact Ledger.continues_write called books.hand id _

/-- A question, after which everything is as it was. -/
theorem continues_of_unchanged {calls : List (Instant × Call)} (unchanged : (act s).2 = s)
    (sound : books.Sound s) (use : α → CallAnswer) :
    books.Sound ((use <$> act) s).2 ∧
      (books.ledger s).Continues books.hand calls (books.ledger ((use <$> act) s).2) := by
  rw [run_map]
  dsimp only
  rw [unchanged]
  exact ⟨sound, .refl _ _ _⟩

variable {kind : RowKind} {use : α → CallAnswer}

/-- The ids that there are after a call are those there were and the one it answers with. -/
theorem ids_of_attempt (attempt : Attempt s (fun answer after => (books.ledger after).ids kind =
      (books.ledger s).ids kind ++ (use answer).issued kind) (act s)) :
    (books.ledger ((use <$> act) s).2).ids kind =
      (books.ledger s).ids kind ++ issued kind [((use <$> act) s).1] := by
  rw [run_map]
  generalize act s = outcome at attempt
  obtain ⟨result, after⟩ := outcome
  cases result with
  | ok answer =>
      have inserted : (books.ledger after).ids kind = _ := attempt
      simpa [issued, Except.map] using inserted
  | error error =>
      have same : after = s := attempt
      simp [issued, Except.map, same]

/-- A call that answers with no new id leaves the ids as they are. -/
theorem ids_of_same (same : (books.ledger (act s).2).ids kind = (books.ledger s).ids kind)
    (none : ∀ answer, (use answer).issued kind = []) :
    (books.ledger ((use <$> act) s).2).ids kind =
      (books.ledger s).ids kind ++ issued kind [((use <$> act) s).1] := by
  rw [run_map]
  have nothing : issued kind [(act s).1.map use] = [] := by
    cases (act s).1 with
    | ok answer => simp [issued, Except.map, none]
    | error error => rfl
  rw [nothing, List.append_nil]
  exact same

end Attempts

/-- A mark gives out no id. -/
theorem ids_of_marked {α : Type} {outcome : Except StoreError α × σ} {done : α → σ → Prop}
    {kind : RowKind} (now : Instant) (attempt : Attempt s done outcome)
    (wrote : ∀ answer after, done answer after → ∃ change id,
      Written books.ledger books.hand books.Sound now change id s after ∧
        ((books.ledger s).write books.hand now id change).ids kind =
          (books.ledger s).ids kind) :
    (books.ledger outcome.2).ids kind = (books.ledger s).ids kind := by
  refine attempt.state (P := fun after =>
    (books.ledger after).ids kind = (books.ledger s).ids kind) rfl ?_
  intro answer after did
  obtain ⟨change, id, written, same⟩ := wrote answer after did
  rw [written.ledger_eq, same]

/-- One call continues the books. -/
theorem continues_run (sound : books.Sound s) (now : Instant) (call : Call) :
    books.Sound (call.run store now s).2 ∧ (books.ledger s).Continues books.hand [(now, call)]
      (books.ledger (call.run store now s).2) := by
  cases call with
  | startSession channel title csv =>
      refine books.continues_of_attempt now
        (books.startSession sound now channel title csv) sound ?_ _
      rintro session after ⟨_, id, written⟩
      exact ⟨.session channel title (.ofCsv csv), id, trivial, written⟩
  | startStory sessionId title =>
      refine books.continues_of_attempt now (books.startStory sound now sessionId title) sound ?_ _
      rintro story after ⟨_, id, written⟩
      exact ⟨.story sessionId title, id, trivial, written⟩
  | castVote storyId user value =>
      refine books.continues_of_attempt now (books.castVote sound now storyId user value) sound ?_ _
      rintro vote after ⟨number, id, _, written⟩
      exact ⟨.vote storyId user number, id, trivial, written⟩
  | setEstimation storyId hours =>
      refine books.continues_of_attempt now (books.setEstimation sound now storyId hours) sound ?_ _
      rintro _ after ⟨number, id, read, written⟩
      exact ⟨.estimate storyId number, id, ⟨hours, List.mem_singleton_self _, read⟩, written⟩
  | finishSession sessionId =>
      refine books.continues_of_attempt now (books.finishSession sound now sessionId) sound ?_ _
      rintro _ after ⟨id, written⟩
      exact ⟨.finish sessionId, id, List.mem_singleton_self _, written⟩
  | currentSession channel =>
      exact books.continues_of_unchanged (books.currentSession channel s) sound _
  | currentStory sessionId =>
      exact books.continues_of_unchanged (books.currentStory sessionId s) sound _
  | votesFor storyId => exact books.continues_of_unchanged (books.votesFor storyId s) sound _
  | storiesFor sessionId =>
      exact books.continues_of_unchanged (books.storiesFor sessionId s) sound _
  | estimatedStoriesFor sessionId =>
      exact books.continues_of_unchanged (books.estimatedStoriesFor sessionId s) sound _

variable {books}

/-- One call inserts the row whose id it answers with, and no other. -/
theorem Issuing.ids_run (issuing : books.Issuing) (sound : books.Sound s) (now : Instant)
    (call : Call) (kind : RowKind) :
    (books.ledger (call.run store now s).2).ids kind =
      (books.ledger s).ids kind ++ issued kind [(call.run store now s).1] := by
  have same (state : σ) (unchanged : state = s) :
      (books.ledger state).ids kind = (books.ledger s).ids kind := by rw [unchanged]
  cases call with
  | startSession channel title csv =>
      exact books.ids_of_attempt (issuing.startSession s now channel title csv kind)
  | startStory sessionId title =>
      exact books.ids_of_attempt (issuing.startStory s now sessionId title kind)
  | castVote storyId user value =>
      exact books.ids_of_attempt (issuing.castVote s now storyId user value kind)
  | setEstimation storyId hours =>
      refine books.ids_of_same ?_ fun _ => rfl
      refine books.ids_of_marked now (books.setEstimation sound now storyId hours) ?_
      rintro _ after ⟨number, id, _, written⟩
      exact ⟨_, id, written, Ledger.ids_estimate ..⟩
  | finishSession sessionId =>
      refine books.ids_of_same ?_ fun _ => rfl
      refine books.ids_of_marked now (books.finishSession sound now sessionId) ?_
      rintro _ after ⟨id, written⟩
      exact ⟨_, id, written, Ledger.ids_finish ..⟩
  | currentSession channel =>
      exact books.ids_of_same (same _ (books.currentSession channel s)) fun _ => rfl
  | currentStory sessionId =>
      exact books.ids_of_same (same _ (books.currentStory sessionId s)) fun _ => rfl
  | votesFor storyId =>
      exact books.ids_of_same (same _ (books.votesFor storyId s)) fun _ => rfl
  | storiesFor sessionId =>
      exact books.ids_of_same (same _ (books.storiesFor sessionId s)) fun _ => rfl
  | estimatedStoriesFor sessionId =>
      exact books.ids_of_same (same _ (books.estimatedStoriesFor sessionId s)) fun _ => rfl

end Bookkeeping

section Current

variable {books : Bookkeeping store} {s : σ}

/-- A finished session is current nowhere. -/
theorem Bookkeeping.id_ne_of_finished (sound : books.Sound s) {line : SessionLine}
    (member : line ∈ (books.ledger s).sessions) (finished : line.finishedAt.isSome)
    {channel : String} {session : Session}
    (current : (store.currentSession channel s).1 = .ok (some session)) :
    session.id ≠ line.id := by
  intro same
  obtain ⟨row, rowMember, rowId, _, unfinished⟩ := books.unfinished current
  have own := List.inj_on_of_nodup_map (books.numbered sound).sessions rowMember member
    (rowId.trans same)
  rw [own] at unfinished
  rw [unfinished] at finished
  cases finished

/-- A story with an estimation is current nowhere. -/
theorem Bookkeeping.id_ne_of_estimated (sound : books.Sound s) {line : StoryLine}
    (member : line ∈ (books.ledger s).stories) (estimated : line.estimation.isSome)
    {sessionId : Int} {story : Story}
    (current : (store.currentStory sessionId s).1 = .ok (some story)) : story.id ≠ line.id := by
  intro same
  obtain ⟨row, rowMember, rowId, _, pending⟩ := books.pending current
  have own := List.inj_on_of_nodup_map (books.numbered sound).stories rowMember member
    (rowId.trans same)
  rw [own] at pending
  rw [pending] at estimated
  cases estimated

end Current

section Runs

variable {books : Bookkeeping store} {s : σ}

/-- A run of calls continues the books. -/
theorem Bookkeeping.continues_runAll (sound : books.Sound s) (calls : List (Instant × Call)) :
    books.Sound (Call.runAll store calls s).2 ∧ (books.ledger s).Continues books.hand calls
      (books.ledger (Call.runAll store calls s).2) := by
  induction calls generalizing s with
  | nil => exact ⟨sound, .refl _ _ _⟩
  | cons first rest ih =>
      obtain ⟨now, call⟩ := first
      obtain ⟨between, one⟩ := books.continues_run sound now call
      obtain ⟨sound', others⟩ := ih between
      exact ⟨sound', one.trans others⟩

/-- A run of calls inserts the rows whose ids it answers with, and no others. -/
theorem Bookkeeping.Issuing.ids_runAll (issuing : books.Issuing) (sound : books.Sound s)
    (calls : List (Instant × Call)) (kind : RowKind) :
    (books.ledger (Call.runAll store calls s).2).ids kind =
      (books.ledger s).ids kind ++ issued kind (Call.runAll store calls s).1 := by
  induction calls generalizing s with
  | nil => simp [Call.runAll, Act.runAll, issued]
  | cons first rest ih =>
      obtain ⟨now, call⟩ := first
      obtain ⟨between, _⟩ := books.continues_run sound now call
      have others := ih between
      rw [issuing.ids_run sound now call kind] at others
      simpa [Call.runAll, Act.runAll_cons, issued] using others

end Runs

end ChatRobots.Poker
