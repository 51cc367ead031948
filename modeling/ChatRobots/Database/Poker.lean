/-
Module: ChatRobots.Database.Poker
Purpose: The poker store over the tables of the database.
Main exports: Database.pokerBackend
-/
import ChatRobots.Database.Basic
import ChatRobots.Poker.Backend

namespace ChatRobots

open Poker

/-!
Each call is one statement.  The newest row is the last one by the text of its creation time and
then by id.  A story needs its session and a vote its story: the insertion of one without the
other is refused and leaves no trace, not even a used id.  A number is read before the database
is asked, so a bad one is reported even when the pool is closed.
-/

namespace SessionRow

def decode (row : SessionRow) : Except StoreError Session := do
  let finishedAt ← match row.finishedAt with
    | none => pure none
    | some text => some <$> Database.readInstant "finished_at" text
  let createdAt ← Database.readInstant "created_at" row.createdAt
  pure ⟨row.id, row.channel, row.title, Roster.ofCsv row.users, createdAt, finishedAt⟩

end SessionRow

namespace StoryRow

def decode (row : StoryRow) : Except StoreError Story := do
  let estimation ← match row.estimation with
    | none => pure none
    | some cell => some <$> cell.read (.nullable "estimation")
  let createdAt ← Database.readInstant "created_at" row.createdAt
  pure ⟨row.id, row.sessionId, row.title, estimation, createdAt⟩

end StoryRow

namespace VoteRow

def decode (row : VoteRow) : Except StoreError Vote := do
  let value ← row.value.read (.required "vote")
  let createdAt ← Database.readInstant "created_at" row.createdAt
  pure ⟨row.id, row.storyId, row.user, value, createdAt⟩

end VoteRow

namespace Database

/-- Decode the last row, if there is one. -/
def decodeLast {ρ α : Type} (decode : ρ → Except StoreError α) (rows : List ρ) :
    Except StoreError (Option α) :=
  match rows.getLast? with
  | none => .ok none
  | some row => (decode row).map some

def sessionsOrdered (rows : List SessionRow) : List SessionRow :=
  sortBy (·.createdAt) (·.id) rows

def storiesOrdered (rows : List StoryRow) : List StoryRow :=
  sortBy (·.createdAt) (·.id) rows

def votesOrdered (rows : List VoteRow) : List VoteRow :=
  sortBy (·.createdAt) (·.id) rows

def startSession (now : Instant) (channel title csv : String) : Act Database Session :=
  command fun db =>
    let roster := Roster.ofCsv csv
    let id := db.sessions.lastId + 1
    (⟨id, channel, title, roster, now, none⟩,
      { db with sessions := db.sessions.insert fun id =>
          ⟨id, channel, title, roster.toCsv, now.toText, none⟩ })

def currentSession (channel : String) : Act Database (Option Session) :=
  query fun db => decodeLast SessionRow.decode <| sessionsOrdered <|
    db.sessions.rows.filter fun row => row.channel == channel && row.finishedAt.isNone

def startStory (now : Instant) (sessionId : Int) (title : String) : Act Database Story :=
  statement fun db =>
    if db.sessions.rows.any fun row => row.id == sessionId then
      (.ok ⟨db.stories.lastId + 1, sessionId, title, none, now⟩,
        { db with stories := db.stories.insert fun id =>
            ⟨id, sessionId, title, none, now.toText⟩ })
    else (.error (.storage (.database (.refused .foreignKey))), db)

def currentStory (sessionId : Int) : Act Database (Option Story) :=
  query fun db => decodeLast StoryRow.decode <| storiesOrdered <|
    db.stories.rows.filter fun row => row.sessionId == sessionId && row.estimation.isNone

def castVote (now : Instant) (storyId : Int) (user value : String) : Act Database Vote := do
  let number ← ExceptT.mk (pure (parseNumber "vote" value))
  statement fun db =>
    if db.stories.rows.any fun row => row.id == storyId then
      (.ok ⟨db.votes.lastId + 1, storyId, user, number, now⟩,
        { db with votes := db.votes.insert fun id =>
            ⟨id, storyId, user, Cell.ofNumber number, now.toText⟩ })
    else (.error (.storage (.database (.refused .foreignKey))), db)

def votesFor (storyId : Int) : Act Database (List Vote) :=
  query fun db => (votesOrdered <| db.votes.rows.filter (·.storyId == storyId)).mapM VoteRow.decode

def setEstimation (storyId : Int) (hours : String) : Act Database Unit := do
  let number ← ExceptT.mk (pure (parseNumber "estimation" hours))
  command fun db => ((), { db with stories := db.stories.update (·.id == storyId) fun row =>
    { row with estimation := some (Cell.ofNumber number) } })

def finishSession (now : Instant) (sessionId : Int) : Act Database Unit :=
  command fun db => ((), { db with sessions := db.sessions.update (·.id == sessionId) fun row =>
    { row with finishedAt := some now.toText } })

def storiesFor (sessionId : Int) : Act Database (List Story) :=
  query fun db =>
    (storiesOrdered <| db.stories.rows.filter (·.sessionId == sessionId)).mapM StoryRow.decode

def estimatedStoriesFor (sessionId : Int) : Act Database (List Story) :=
  query fun db => (storiesOrdered <| db.stories.rows.filter fun row =>
    row.sessionId == sessionId && row.estimation.isSome).mapM StoryRow.decode

/-- The calls of the poker store in the database. -/
def pokerBackend : Poker.Backend Database where
  startSession := startSession
  currentSession := currentSession
  startStory := startStory
  currentStory := currentStory
  castVote := castVote
  votesFor := votesFor
  setEstimation := setEstimation
  finishSession := finishSession
  storiesFor := storiesFor
  estimatedStoriesFor := estimatedStoriesFor

end Database

end ChatRobots
