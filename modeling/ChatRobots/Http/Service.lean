/-
Module: ChatRobots.Http.Service
Purpose: The routes of the server, and the tasks that its requests start.
Main exports: Service, Service.respond, Desk, Desk.handle
-/
import ChatRobots.Http.Form
import ChatRobots.Http.Response
import ChatRobots.Poker.Snapshot
import ChatRobots.Robot.Crew

namespace ChatRobots.Http

/-!
The server has a route for each way in which requests for robots arrive, one that shows the
session of a channel, and one for its health where there is a database to ask.  A request for a
robot is answered at once; the robot's own replies follow when its task has run.

A form is taken only under its own content type and up to a size.  Fields that a route does not
know are ignored, those it knows must not come twice, and those that are missing are empty, except
for the channel of a session, which must be given.
-/

/-- Where a route finds what it needs. -/
structure Service (σ : Type) where
  registry : Registry σ
  tokens : Dictionary String
  poker : Poker.Backend σ
  /-- The error of asking the database, if there is one to ask. -/
  ping : Option (σ → Except DatabaseError Unit)

/-- The task that a request has started. -/
structure Task (σ : Type) where
  robot : Robot σ
  payload : Payload

/-- What a route answers, and the task it has started. -/
structure Reaction (σ : Type) where
  response : Response
  task : Option (Task σ) := none

/-- The largest form that is taken, in bytes. -/
def formLimit : Nat := 2097152

def formContentType : String := "application/x-www-form-urlencoded"

/-- The fields of the form in a request. -/
def readForm (known : List String) (request : Request) :
    Except Response (List (String × String)) :=
  let isForm := match request.contentType with
    | none => false
    | some contentType =>
        (Text.afterLead? formContentType.toList contentType.toList).isSome
  if !isForm then
    .error (.plain 415 ("Form requests must have `Content-Type: " ++ formContentType ++ "`"))
  else if formLimit < request.body.length then
    .error (.plain 413 "Failed to buffer the request body: length limit exceeded")
  else match distinctFields known (formFields request.body) with
    | .ok fields => .ok fields
    | .error cause => .error (.plain 422 ("Failed to deserialize form body: " ++ cause))

/-- The value of a field, empty when it is missing. -/
def fieldOf (fields : List (String × String)) (name : String) : String :=
  (fields.lookup name).getD ""

def senderNames : List String :=
  ["token", "team_domain", "channel_id", "channel_name", "user_id", "user_name"]

def senderOf (fields : List (String × String)) : Sender where
  token := fieldOf fields "token"
  teamDomain := fieldOf fields "team_domain"
  channelId := fieldOf fields "channel_id"
  channelName := fieldOf fields "channel_name"
  userId := fieldOf fields "user_id"
  userName := fieldOf fields "user_name"

/-- Ask the database whether it answers. -/
def pingDatabase (db : Database) : Except DatabaseError Unit :=
  if db.closed then .error .poolClosed else .ok ()

/-- The server over the database. -/
def Service.overDatabase (tokens : Dictionary String) (teamDomain : Option String) :
    Service Database where
  registry := crew Stores.inDatabase teamDomain
  tokens := tokens
  poker := Database.pokerBackend
  ping := some pingDatabase

/-- The server over stores in memory. -/
def Service.inMemory (tokens : Dictionary String) (teamDomain : Option String) :
    Service MemoryStores where
  registry := crew Stores.inMemory teamDomain
  tokens := tokens
  poker := Stores.inMemory.poker
  ping := none

namespace Service

variable {σ : Type} (service : Service σ)

/-- A request in the form of a slash command. -/
def slashCommand (correlationId : String) (request : Request) : Chat σ (Reaction σ) := do
  match readForm (senderNames ++ ["command", "text"]) request with
  | .error response => pure ⟨response, none⟩
  | .ok fields =>
      let form : SlashCommand :=
        ⟨senderOf fields, fieldOf fields "command", fieldOf fields "text"⟩
      match form.accept service.tokens correlationId with
      | .error error => do
          logEvent (.commandRejected error)
          pure ⟨.plain 400 error.message, none⟩
      | .ok payload => do
          match ← service.registry.receive payload with
          | some robot => pure ⟨.plain 200 "", some ⟨robot, payload⟩⟩
          | none => do
              logEvent (.unknownRobot payload)
              pure ⟨.plain 200 "No robot for that command yet :(", none⟩

/-- A request in the form of a message with a trigger word. -/
def triggerWord (correlationId : String) (request : Request) : Chat σ (Reaction σ) := do
  let answer (text : String) : Response := .data 200 (.object [("text", .string text)])
  match readForm (senderNames ++ ["text", "trigger_word"]) request with
  | .error response => pure ⟨response, none⟩
  | .ok fields =>
      let form : TriggerWord :=
        ⟨senderOf fields, fieldOf fields "text", fieldOf fields "trigger_word"⟩
      let payload := form.toPayload correlationId
      match ← service.registry.receive payload with
      | some robot => pure ⟨answer "", some ⟨robot, payload⟩⟩
      | none =>
          pure ⟨answer ("No robot for " ++ payload.robot ++ " (" ++ payload.text ++ ")"), none⟩

def errorBody (text : String) : Json :=
  .object [("error", .string text)]

/-- The channel that a query names. -/
def channelOf (query : String) : Except String String := do
  let fields ← distinctFields ["channel"] (formFields (Text.encodeUtf8 query))
  match fields.lookup "channel" with
  | some channel => pure channel
  | none => throw "missing field `channel`"

/-- The current session of a channel with its stories. -/
def pokerSession (request : Request) : Chat σ (Reaction σ) := do
  match channelOf request.query with
  | .error cause =>
      pure ⟨.plain 400 ("Failed to deserialize query string: " ++ cause), none⟩
  | .ok channel =>
      let scene ← get
      let (result, stores) := Poker.Table.snapshot service.poker channel scene.stores
      set { scene with stores := stores }
      match result with
      | .ok (some snapshot) => pure ⟨.data 200 snapshot.toJson, none⟩
      | .ok none =>
          pure ⟨.data 404 (errorBody ("no current session for channel " ++ channel)), none⟩
      | .error error => do
          logEvent (.sessionFailed channel error)
          pure ⟨.data 500 (errorBody error.message), none⟩

/-- One line of the health report. -/
def healthCheck (status detail : String) : Json :=
  .object [("status", .string status), ("detail", .string detail)]

/-- The health of the server and of its database. -/
def health (ping : σ → Except DatabaseError Unit) (now : Instant) : Chat σ (Reaction σ) := do
  let scene ← get
  let report (status : String) (database : Json) : Json := .object [
    ("status", .string status),
    ("service", healthCheck "ready" "relaybot-server runtime initialized"),
    ("database", database),
    ("robots", .integer service.registry.size),
    ("checked_at", .string now.toAutoText)]
  match ping scene.stores with
  | .ok () =>
      pure ⟨.data 200 (report "ready" (healthCheck "ready" "database query succeeded")), none⟩
  | .error cause =>
      pure ⟨.data 503 (report "degraded"
        (healthCheck "degraded" ("database query failed: " ++ cause.message))), none⟩

/-- A route that only reads: `GET`, and `HEAD` for the same without its body. -/
def reading (request : Request) (answer : Chat σ (Reaction σ)) : Chat σ (Reaction σ) := do
  if request.method = "GET" then answer
  else if request.method = "HEAD" then do
    let reaction ← answer
    pure { reaction with response := reaction.response.withoutBody }
  else pure ⟨.wrongMethod "GET,HEAD", none⟩

/-- A route that takes something in. -/
def posting (request : Request) (answer : Chat σ (Reaction σ)) : Chat σ (Reaction σ) :=
  if request.method = "POST" then answer else pure ⟨.wrongMethod "POST", none⟩

/-- Answer a request. -/
def respond (now : Instant) (correlationId : String) (request : Request) : Chat σ (Reaction σ) :=
  match request.path, service.ping with
  | "/slack", _ => posting request (service.slashCommand correlationId request)
  | "/slack_hook", _ => posting request (service.triggerWord correlationId request)
  | "/poker/session", _ => reading request (service.pokerSession request)
  | "/health", some ping => reading request (service.health ping now)
  | _, _ => pure ⟨.notFound, none⟩

end Service

/-!
Tasks run between requests.  The desk lets them run as soon as more tasks are alive than there
were when it opened; a pool of connections keeps one task of its own alive until it is closed.
-/

/-- A scene with the tasks that have been started and not yet run. -/
structure Desk (σ : Type) where
  scene : Scene σ
  waiting : List (Task σ) := []
  /-- The tasks that were alive at the beginning. -/
  baseline : Nat := 0
  /-- Those of them that are still alive. -/
  resident : Nat := 0

namespace Desk

variable {σ : Type}

/-- Run the waiting tasks, one after another. -/
def runTasks (label : String) (clock : Clock) : List (Task σ) → Scene σ → Scene σ
  | [], scene => scene
  | task :: rest, scene =>
      let (_, scene) := Registry.runTask label clock task.robot task.payload scene
      runTasks label clock rest scene

/-- Answer a request, and let tasks run if there are enough of them. -/
def handle (service : Service σ) (label correlationId : String) (clock : Clock)
    (request : Request) (desk : Desk σ) : Response × Desk σ :=
  let (reaction, scene) := service.respond clock.now correlationId request desk.scene
  let waiting := desk.waiting ++ reaction.task.toList
  if desk.baseline < waiting.length + desk.resident then
    (reaction.response,
      { desk with scene := runTasks label clock waiting scene, waiting := [] })
  else (reaction.response, { desk with scene := scene, waiting := waiting })

end Desk

end ChatRobots.Http
