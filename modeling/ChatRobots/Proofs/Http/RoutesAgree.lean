/-
Module: ChatRobots.Proofs.Http.RoutesAgree
Purpose: A slash command and a message with a trigger word that ask for the same thing get the same.
Main exports: SameWish, SameWish.accept_eq, SameWish.toPayload_eq, Http.Service.BringsMessage,
  Http.Service.routes_agree
-/
import ChatRobots.Proofs.Http.SlashCommands
import ChatRobots.Proofs.Robot.ChannelViews
import ChatRobots.Proofs.Robot.CorrelationIds
import ChatRobots.Proofs.Text.Trimming

namespace ChatRobots

/-!
A robot can be asked in two ways, and the two forms are taken apart by different steps: one trims
the command and drops slashes, the other trims, takes off the trigger word, trims again and cuts at
the first space.  What the user has written between the blanks is the same in both, and so is the
request that comes of it.  Only the correlation ids differ, and no robot looks at them.
-/

/-- A slash command and a message by which one sender asks the robot with this key for the same
thing, with any blanks around what was written. -/
structure SameWish (key text : List Char) (command : SlashCommand) (message : TriggerWord) :
    Prop where
  named : key ≠ []
  solid : Text.Solid key
  slashless : key.head? ≠ some '/'
  trigger : Text.Trimmed message.triggerWord.toList
  slash : Text.Padded ('/' :: key) command.command.toList
  words : Text.Padded text command.text.toList
  line : Text.Padded (message.triggerWord.toList ++ ' ' :: key ++ ' ' :: text)
    message.text.toList
  sender : { command.sender with token := message.sender.token } = message.sender

/-- The command has a token, and the one that is demanded for the robot if there is one. -/
structure SlashCommand.HasToken (tokens : Dictionary String) (key : List Char)
    (command : SlashCommand) : Prop where
  given : command.sender.token ≠ ""
  demanded : ∀ expected, tokens.find? (String.ofList (Text.lowercase key)) = some expected →
    command.sender.token = expected

namespace SameWish

variable {key text : List Char} {command : SlashCommand} {message : TriggerWord}

/-- What is asked for. -/
def payload (key text : List Char) (sender : Sender) (correlationId : String) : Payload :=
  sender.payload (String.ofList key) (String.ofList (Text.trim text)) correlationId

theorem robotOf_eq (wish : SameWish key text command message) :
    SlashCommand.robotOf command.command = String.ofList key := by
  have solid : Text.Solid ('/' :: key) := by
    intro c member
    rcases List.mem_cons.1 member with rfl | inKey
    · decide
    · exact wish.solid c inKey
  have kept : Text.dropLeading '/' ('/' :: key) = key := by
    cases key with
    | nil => exact absurd rfl wish.named
    | cons c rest =>
        have other : c ≠ '/' := fun same => wish.slashless (by simp [same])
        simp [Text.dropLeading, other]
  rw [SlashCommand.robotOf, wish.slash.trim_eq, Text.trim_eq_self solid.trimmed, kept]

/-- The slash command is accepted as the request. -/
theorem accept_eq (wish : SameWish key text command message) {tokens : Dictionary String}
    (token : command.HasToken tokens key) (correlationId : String) :
    command.accept tokens correlationId = .ok (payload key text command.sender correlationId) := by
  have robot := wish.robotOf_eq
  have asks : command.asked correlationId = payload key text command.sender correlationId := by
    rw [SlashCommand.asked, robot, wish.words.trim_eq, payload]
  rw [← asks]
  rcases SlashCommand.refused_or_accepted tokens command correlationId with
    ⟨error, refused⟩ | ⟨accepts, -⟩
  · exfalso
    cases refused with
    | missingCommand unnamed =>
        rw [robot] at unnamed
        exact wish.named (by simpa using unnamed)
    | missingToken named tokenless => exact token.given tokenless
    | tokenMismatch named tokened configured differs =>
        rw [robot, String.toList_ofList] at configured
        exact differs (token.demanded _ configured).symm
  · exact accepts

/-- What is left of the message without the trigger word is the key and what follows it. -/
theorem trim_after_trigger (wish : SameWish key text command message) :
    let written := Text.trim message.text.toList
    Text.trim ((Text.afterLead? message.triggerWord.toList written).getD written) =
      key ++ Text.trimEnd (' ' :: text) := by
  have wanted : Text.trim (' ' :: key ++ ' ' :: text) = key ++ Text.trimEnd (' ' :: text) := by
    have blank : Text.Blank [' '] := by decide
    rw [Text.trim, List.cons_append, ← List.singleton_append, Text.trimStart_blank_append blank,
      ← Text.trim, Text.trim_word_append wish.named wish.solid.trimmed]
  dsimp only
  rw [wish.line.trim_eq, List.append_assoc]
  by_cases silent : message.triggerWord.toList = []
  · rw [silent, List.nil_append]
    simp only [Text.afterLead?, Option.getD_some]
    rw [Text.trim_trim, wanted]
  · rw [Text.trim_word_append silent wish.trigger, Text.afterLead?_append, Option.getD_some,
      Text.trim_trimEnd, wanted]

/-- The message is the same request. -/
theorem toPayload_eq (wish : SameWish key text command message) (correlationId : String) :
    message.toPayload correlationId = payload key text command.sender correlationId := by
  have request : TriggerWord.request message.text message.triggerWord =
      (String.ofList key, String.ofList (Text.trim text)) := by
    rw [TriggerWord.request, wish.trim_after_trigger,
      Text.cut?_word_append wish.solid.space_not_mem]
    by_cases blank : Text.Blank text
    · rw [if_pos blank, Text.trimEnd_space_cons blank, List.append_nil,
        Text.trim_eq_nil_iff.2 blank]
    · rw [if_neg blank]
      exact congrArg (String.ofList key, ·) (congrArg String.ofList (Text.trim_trimEnd text))
  rw [TriggerWord.toPayload, request, ← wish.sender]
  rfl

end SameWish

namespace Http.Service

/-- The request brings the form to the route for messages with a trigger word. -/
structure BringsMessage (request : Request) (form : TriggerWord) : Prop where
  method : request.method = "POST"
  path : request.path = "/slack_hook"
  fields : ∃ fields, readForm (senderNames ++ ["text", "trigger_word"]) request = .ok fields
    ∧ form = ⟨senderOf fields, fieldOf fields "text", fieldOf fields "trigger_word"⟩

section Starts

variable {σ : Type} {service : Service σ} {request : Request} {payload : Payload}
  {correlationId : String}

/-- What has come of a request started the robot of the payload, if there is one, and did nothing
else that can be seen. -/
structure Starts (service : Service σ) (payload : Payload) (before : Scene σ)
    (outcome : Reaction σ × Scene σ) : Prop where
  task : outcome.1.task = (service.registry.get? payload.robot).map fun robot => ⟨robot, payload⟩
  scene : outcome.2.LooksLike Eq before

theorem looksLike_noted (scene : Scene σ) (event : Event) :
    (scene.noted event).LooksLike Eq scene :=
  ⟨rfl, rfl, scene.messages_noted event⟩

theorem starts_of_command {form : SlashCommand} (brings : BringsCommand request form)
    (accepts : form.accept service.tokens correlationId = .ok payload) (now : Instant)
    (scene : Scene σ) :
    Starts service payload scene (service.respond now correlationId request scene) := by
  rw [respond_of_command brings, accepts]
  dsimp only
  cases found : service.registry.get? payload.robot with
  | some robot => exact ⟨by rw [found]; rfl, looksLike_noted scene _⟩
  | none => exact ⟨by rw [found]; rfl, looksLike_noted scene _⟩

theorem starts_of_message {form : TriggerWord} (brings : BringsMessage request form) (now : Instant)
    (scene : Scene σ) :
    Starts service (form.toPayload correlationId) scene
      (service.respond now correlationId request scene) := by
  obtain ⟨method, path, fields, read, rfl⟩ := brings
  have routed : service.respond now correlationId request =
      service.triggerWord correlationId request := by
    simp only [respond, path, posting, method, if_true]
  rw [routed, triggerWord, read]
  dsimp only
  generalize TriggerWord.toPayload correlationId _ = payload
  cases found : service.registry.get? payload.robot with
  | some robot =>
      rw [run_bind_state (Registry.receive_of_get? found scene)]
      exact ⟨by rw [found]; rfl, looksLike_noted scene _⟩
  | none =>
      rw [run_bind_state (Registry.receive_of_unknown found scene)]
      exact ⟨by rw [found]; rfl, rfl, rfl, rfl⟩

end Starts

/-- A slash command and a message with a trigger word that ask for the same thing become the same
request, but for the correlation id.  They start the same robot and leave everything as it was; and
from scenes that look the same, the started task sends the same replies and leaves the same
stores, whichever of the two has started it. -/
theorem routes_agree (medium : Poker.Medium) (tokens : Dictionary String)
    (teamDomain : Option String) {key text : List Char} {command : SlashCommand}
    {message : TriggerWord} (wish : SameWish key text command message)
    (token : command.HasToken tokens key) {slash hook : Request}
    (brings : BringsCommand slash command) (brings' : BringsMessage hook message)
    (now now' : Instant) (id id' : String) (scene : Scene medium.CrewState) :
    let service := medium.service tokens teamDomain
    let bySlash := service.respond now id slash scene
    let byHook := service.respond now' id' hook scene
    ∃ payload : Payload,
      payload.robot = String.ofList key ∧ payload.text = String.ofList (Text.trim text) ∧
      command.accept tokens id = .ok (payload.under id) ∧
      message.toPayload id' = payload.under id' ∧
      Starts service (payload.under id) scene bySlash ∧
      Starts service (payload.under id') scene byHook ∧
      ∀ (label : String) (clock : Clock) (later later' : Scene medium.CrewState),
        later.LooksLike Eq later' →
        (Desk.runTasks label clock bySlash.1.task.toList later).LooksLike Eq
          (Desk.runTasks label clock byHook.1.task.toList later') := by
  intro service bySlash byHook
  have registry : service.registry = crew medium.crewStores teamDomain := by
    cases medium <;> rfl
  have configured : service.tokens = tokens := by
    cases medium <;> rfl
  have accepts := wish.accept_eq token id
  let payload := SameWish.payload key text command.sender ""
  have becomes : message.toPayload id' = payload.under id' := wish.toPayload_eq id'
  have first : Starts service (payload.under id) scene bySlash :=
    starts_of_command brings (configured ▸ accepts) now scene
  have second : Starts service (payload.under id') scene byHook := by
    rw [← becomes]
    exact starts_of_message brings' now' scene
  refine ⟨payload, rfl, rfl, accepts, becomes, first, second, ?_⟩
  intro label clock later later' looks
  rw [first.task, second.task, registry, Payload.robot_under, Payload.robot_under]
  cases found : (crew medium.crewStores teamDomain).get? payload.robot with
  | none => exact looks
  | some robot =>
      have twins := twins_runTask (twins_crew found clock (payload.under id) id')
        ((payload.under id).samePlace_under id') label
      exact (twins looks).2

/-- A slash command that opens a session, with blanks that do not count. -/
def slashForm : SlashCommand :=
  ⟨⟨"s3cret", "acme", "C1", "eng", "U1", "ann"⟩, " /poker", "session  Sprint 1 "⟩

/-- The same wish as a message, from an integration with another token. -/
def hookForm : TriggerWord :=
  ⟨⟨"t0ken", "acme", "C1", "eng", "U1", "ann"⟩, "bot poker session  Sprint 1", "bot"⟩

/-- A request with a form from this sender. -/
def post (path fields : String) : Request where
  method := "POST"
  path := path
  query := ""
  contentType := some formContentType
  body := Text.encodeUtf8
    (fields ++ "&team_domain=acme&channel_id=C1&channel_name=eng&user_id=U1&user_name=ann")

def slashRequest : Request :=
  post "/slack" "token=s3cret&command=+%2Fpoker&text=session++Sprint+1+"

def hookRequest : Request :=
  post "/slack_hook" "token=t0ken&text=bot+poker+session++Sprint+1&trigger_word=bot"

theorem sameWish_forms : SameWish "poker".toList "session  Sprint 1".toList slashForm hookForm where
  named := by decide +kernel
  solid := by decide +kernel
  slashless := by decide +kernel
  trigger := by simp [hookForm, Text.Trimmed]; decide
  slash := ⟨[' '], [], by decide, by decide, by decide +kernel⟩
  words := ⟨[], [' '], by decide, by decide, by decide +kernel⟩
  line := ⟨[], [], by decide, by decide, by decide +kernel⟩
  sender := rfl

theorem hasToken_slashForm : slashForm.HasToken (.ofList [("poker", "s3cret")]) "poker".toList where
  given := by decide +kernel
  demanded := by
    have configured : (Dictionary.ofList [("poker", "s3cret")]).find?
        (String.ofList (Text.lowercase "poker".toList)) = some "s3cret" := by decide +kernel
    intro expected found
    exact Option.some.inj (configured.symm.trans found)

/-- Either way the session is opened, in a store that holds nothing yet, and it is said so. -/
theorem session_opened_either_way :
    let tokens := Dictionary.ofList [("poker", "s3cret")]
    let service := Poker.Medium.memory.service tokens none
    let scene : Scene Poker.Medium.memory.CrewState := { stores := Poker.Medium.memory.crewEmpty }
    let noon := Poker.Medium.noon
    let bySlash := service.respond noon "req-1" slashRequest scene
    let byHook := service.respond noon "req-2" hookRequest scene
    SameWish "poker".toList "session  Sprint 1".toList slashForm hookForm ∧
      slashForm.HasToken tokens "poker".toList ∧
      BringsCommand slashRequest slashForm ∧ BringsMessage hookRequest hookForm ∧
      (∃ payload : Payload, payload.robot = "poker" ∧ payload.text = "session  Sprint 1" ∧
        Starts service (payload.under "req-1") scene bySlash ∧
        Starts service (payload.under "req-2") scene byHook) ∧
      let afterwards (reaction : Reaction MemoryStores) : Scene MemoryStores :=
        Desk.runTasks "task" ⟨noon, noon.date⟩ reaction.task.toList scene
      (afterwards bySlash.1).LooksLike Eq (afterwards byHook.1) ∧
        ∀ after ∈ [afterwards bySlash.1, afterwards byHook.1],
          after.messages.map (·.text) = ["Started poker session for *Sprint 1*"] ∧
            after.stores.poker.sessions.map (fun session =>
              (session.channel, session.title, session.finishedAt)) =
                [("eng", "Sprint 1", none)] := by
  dsimp only
  have brings : BringsCommand slashRequest slashForm :=
    ⟨rfl, rfl, exists_fields (by decide +kernel)⟩
  have brings' : BringsMessage hookRequest hookForm :=
    ⟨rfl, rfl, exists_fields (by decide +kernel)⟩
  obtain ⟨payload, robot, words, -, -, first, second, alike⟩ := routes_agree .memory
    (.ofList [("poker", "s3cret")]) none sameWish_forms hasToken_slashForm brings brings'
    Poker.Medium.noon Poker.Medium.noon "req-1" "req-2"
    { stores := Poker.Medium.memory.crewEmpty }
  have trims : Text.trim "session  Sprint 1".toList = "session  Sprint 1".toList := by
    decide +kernel
  rw [trims, String.ofList_toList] at words
  rw [String.ofList_toList] at robot
  exact ⟨sameWish_forms, hasToken_slashForm, brings, brings',
    ⟨payload, robot, words, first, second⟩, alike _ _ _ _ ⟨rfl, rfl, rfl⟩, by decide +kernel⟩

end Http.Service

end ChatRobots
