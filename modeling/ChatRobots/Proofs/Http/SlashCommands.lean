/-
Module: ChatRobots.Proofs.Http.SlashCommands
Purpose: Tokens that are configured are demanded of every slash command.
Main exports: SlashCommand.Refused, SlashCommand.accept_eq_error_iff, Http.Service.BringsCommand,
  Http.Service.started_with_token
-/
import ChatRobots.Http.Service
import ChatRobots.Proofs.Config.CommandTokens
import ChatRobots.Proofs.Poker.Medium
import ChatRobots.Proofs.Robot.Scenes

namespace ChatRobots

/-!
Three pieces of the program have to mean one name: the configuration lower-cases the ASCII letters
of names, a slash command looks its token up under the robot's name in full lower case, and the
registry takes the name as it is spelled.  They agree on ASCII names, and a command with any other
name reaches no robot, because the registry has none under it.  So nobody gets past a token by
spelling a name differently: what starts a robot is spelled as its key, and is then looked up under
the very name that the token was put in under.
-/

namespace SlashCommand

/-- Why the form is refused, with these tokens in force. -/
inductive Refused (tokens : Dictionary String) (form : SlashCommand) : IngressError → Prop where
  | missingCommand (unnamed : robotOf form.command = "") : Refused tokens form .missingCommand
  | missingToken (named : robotOf form.command ≠ "") (tokenless : form.sender.token = "") :
      Refused tokens form .missingToken
  | tokenMismatch {expected : String} (named : robotOf form.command ≠ "")
      (tokened : form.sender.token ≠ "")
      (configured : tokens.find? (String.ofList (Text.lowercase (robotOf form.command).toList))
        = some expected)
      (differs : expected ≠ form.sender.token) :
      Refused tokens form (.tokenMismatch (robotOf form.command))

/-- What a form asks for that is accepted. -/
structure Accepted (tokens : Dictionary String) (form : SlashCommand) (payload : Payload) :
    Prop where
  robot : payload.robot = robotOf form.command
  named : payload.robot ≠ ""
  token : ∀ expected,
    tokens.find? (String.ofList (Text.lowercase payload.robot.toList)) = some expected →
      form.sender.token = expected

variable {tokens : Dictionary String} {form : SlashCommand} {correlationId : String}

/-- A form is refused for the first of the three causes that it gives. -/
theorem accept_eq_error {error : IngressError} (refused : Refused tokens form error) :
    form.accept tokens correlationId = .error error := by
  cases refused with
  | missingCommand unnamed => simp only [accept, if_pos unnamed]
  | missingToken named tokenless => simp only [accept, if_neg named, if_pos tokenless]
  | tokenMismatch named tokened configured differs =>
      simp only [accept, if_neg named, if_neg tokened, configured, if_neg differs]

/-- The request that an accepted form makes. -/
def asked (form : SlashCommand) (correlationId : String) : Payload :=
  form.sender.payload (robotOf form.command) (String.ofList (Text.trim form.text.toList))
    correlationId

/-- Where none of the causes is given the form is accepted. -/
theorem refused_or_accepted (tokens : Dictionary String) (form : SlashCommand)
    (correlationId : String) : (∃ error, Refused tokens form error) ∨
      form.accept tokens correlationId = .ok (form.asked correlationId) ∧
        Accepted tokens form (form.asked correlationId) := by
  by_cases unnamed : robotOf form.command = ""
  · exact .inl ⟨_, .missingCommand unnamed⟩
  by_cases tokenless : form.sender.token = ""
  · exact .inl ⟨_, .missingToken unnamed tokenless⟩
  cases known : tokens.find? (String.ofList (Text.lowercase (robotOf form.command).toList)) with
  | none =>
      refine .inr ⟨?_, rfl, unnamed, fun expected found => ?_⟩
      · simp only [accept, if_neg unnamed, if_neg tokenless, known, asked]
      · cases known.symm.trans found
  | some configured =>
      by_cases same : configured = form.sender.token
      · refine .inr ⟨?_, rfl, unnamed, fun expected found => ?_⟩
        · simp only [accept, if_neg unnamed, if_neg tokenless, known, if_pos same, asked]
        · cases known.symm.trans found
          exact same.symm
      · exact .inl ⟨_, .tokenMismatch unnamed tokenless known same⟩

theorem accepted_of_accept {payload : Payload}
    (ok : form.accept tokens correlationId = .ok payload) : Accepted tokens form payload := by
  obtain ⟨error, refused⟩ | ⟨accepts, accepted⟩ :=
    refused_or_accepted tokens form correlationId
  · cases (accept_eq_error refused).symm.trans ok
  · cases accepts.symm.trans ok
    exact accepted

/-- The causes are the only ones. -/
theorem accept_eq_error_iff {error : IngressError} :
    form.accept tokens correlationId = .error error ↔ Refused tokens form error := by
  refine ⟨fun failed => ?_, accept_eq_error⟩
  obtain ⟨error', refused⟩ | ⟨accepts, -⟩ :=
    refused_or_accepted tokens form correlationId
  · cases (accept_eq_error refused).symm.trans failed
    exact refused
  · cases accepts.symm.trans failed

end SlashCommand

namespace Http.Service

variable {σ : Type}

/-- The request brings the form to the route for slash commands. -/
structure BringsCommand (request : Request) (form : SlashCommand) : Prop where
  method : request.method = "POST"
  path : request.path = "/slack"
  fields : ∃ fields, readForm (senderNames ++ ["command", "text"]) request = .ok fields
    ∧ form = ⟨senderOf fields, fieldOf fields "command", fieldOf fields "text"⟩

variable {service : Service σ} {request : Request} {form : SlashCommand}

/-- What the route makes of a form: it is refused, or it asks for a robot, which is started if there
is one. -/
theorem respond_of_command (brings : BringsCommand request form) (now : Instant)
    (correlationId : String) (scene : Scene σ) :
    service.respond now correlationId request scene =
      match form.accept service.tokens correlationId with
      | .error error => (⟨.plain 400 error.message, none⟩, scene.noted (.commandRejected error))
      | .ok payload =>
          match service.registry.get? payload.robot with
          | some robot =>
              (⟨.plain 200 "", some ⟨robot, payload⟩⟩, scene.noted (.commandReceived payload))
          | none =>
              (⟨.plain 200 "No robot for that command yet :(", none⟩,
                scene.noted (.unknownRobot payload)) := by
  obtain ⟨method, path, fields, read, rfl⟩ := brings
  have routed : service.respond now correlationId request =
      service.slashCommand correlationId request := by
    simp only [respond, path, posting, method, if_true]
  rw [routed, slashCommand, read]
  dsimp only
  cases SlashCommand.accept service.tokens correlationId
      ⟨senderOf fields, fieldOf fields "command", fieldOf fields "text"⟩ with
  | error error => rfl
  | ok payload =>
      dsimp only
      cases found : service.registry.get? payload.robot with
      | some robot =>
          rw [run_bind_state (Registry.receive_of_get? found scene)]
          rfl
      | none =>
          rw [run_bind_state (Registry.receive_of_unknown found scene)]
          rfl

/-- A request that brings no form starts no task. -/
theorem exists_form_of_started (path : request.path = "/slack") {now : Instant}
    {correlationId : String} {scene : Scene σ} {task : Task σ}
    (started : (service.respond now correlationId request scene).1.task = some task) :
    ∃ form, BringsCommand request form := by
  have routed : service.respond now correlationId request =
      posting request (service.slashCommand correlationId request) := by
    simp only [respond, path]
  rw [routed, posting] at started
  split at started
  case isFalse => cases started
  case isTrue method =>
    cases read : readForm (senderNames ++ ["command", "text"]) request with
    | error response =>
        rw [slashCommand, read] at started
        cases started
    | ok fields => exact ⟨_, method, path, fields, read, rfl⟩

/-- A form that is refused leaves a line in the log and nothing else. -/
theorem respond_of_refused (brings : BringsCommand request form) {error : IngressError}
    (refused : form.Refused service.tokens error) (now : Instant) (correlationId : String)
    (scene : Scene σ) :
    service.respond now correlationId request scene =
      (⟨.plain 400 error.message, none⟩, scene.noted (.commandRejected error)) := by
  rw [respond_of_command brings, SlashCommand.accept_eq_error refused]

/-- What starts a task is a form that was accepted, for a robot that is spelled like its key. -/
theorem accepted_of_started (brings : BringsCommand request form) {now : Instant}
    {correlationId : String} {scene : Scene σ} {task : Task σ}
    (started : (service.respond now correlationId request scene).1.task = some task) :
    service.registry.get? task.payload.robot = some task.robot ∧
      form.Accepted service.tokens task.payload := by
  rw [respond_of_command brings] at started
  cases accepted : form.accept service.tokens correlationId with
  | error error =>
      rw [accepted] at started
      cases started
  | ok payload =>
      rw [accepted] at started
      dsimp only at started
      cases found : service.registry.get? payload.robot with
      | none =>
          rw [found] at started
          cases started
      | some robot =>
          rw [found] at started
          cases started
          exact ⟨found, SlashCommand.accepted_of_accept accepted⟩

/-- A robot for which a token was given, in whatever case of its name, is started only by a form
that has the token in force, and that is no blank one; a form that is refused starts no robot,
sends no message and leaves the stores as they are. -/
theorem started_with_token {files : Files} {env : Environment} {options : LoadOptions}
    {config : Config} (loaded : Config.load files env options = .ok config)
    (configured : service.tokens = config.slack.commandTokens)
    (asciiKeys : ∀ key ∈ service.registry.keys, Text.IsAscii key)
    (path : request.path = "/slack") (now : Instant) (correlationId : String) (scene : Scene σ) :
    (∀ task, (service.respond now correlationId request scene).1.task = some task →
      service.registry.get? task.payload.robot = some task.robot ∧
        ∃ form, BringsCommand request form ∧
          (TokenGiven files env options task.payload.robot →
            ∃ token, config.slack.commandTokens.find?
                (Text.asciiLowercase task.payload.robot) = some token
              ∧ form.sender.token = token ∧ Text.isBlankText token = false)) ∧
      ∀ form error, BringsCommand request form →
        form.Refused config.slack.commandTokens error →
          (service.respond now correlationId request scene).1.task = none ∧
            (service.respond now correlationId request scene).2.messages = scene.messages ∧
              (service.respond now correlationId request scene).2.stores = scene.stores := by
  constructor
  case left =>
    intro task started
    obtain ⟨form, brings⟩ := exists_form_of_started path started
    obtain ⟨found, accepted⟩ := accepted_of_started brings started
    refine ⟨found, form, brings, fun given => ?_⟩
    obtain ⟨token, inForce, solid⟩ := Config.exists_token loaded accepted.named given
    -- The robot was found under its name as spelled, so the name is one of the keys.
    have key : task.payload.robot ∈ service.registry.keys :=
      List.mem_map.2 ⟨_, mem_of_lookup found, rfl⟩
    have lookedUp : service.tokens.find?
        (String.ofList (Text.lowercase task.payload.robot.toList)) = some token := by
      rw [Text.lowercase_of_ascii (asciiKeys _ key), configured, inForce]
    exact ⟨token, inForce, accepted.token token lookedUp, solid⟩
  case right =>
    intro form error brings refused
    rw [← configured] at refused
    rw [respond_of_refused brings refused now correlationId scene]
    exact ⟨rfl, Scene.messages_noted scene _, rfl⟩

/-- The keys of the three robots are ASCII. -/
theorem isAscii_of_mem_crew (stores : Stores σ) (teamDomain : Option String) {key : String}
    (mem : key ∈ (crew stores teamDomain).keys) : Text.IsAscii key := by
  have keys : (crew stores teamDomain).keys = ["poker", "store", "vacation"] := rfl
  rw [keys] at mem
  revert key
  simp [Text.IsAscii]

/-- A form that was taken from a request has been read from its fields. -/
theorem exists_fields {α : Type} {known : List String} {request : Request}
    {make : List (String × String) → α} {form : α}
    (taken : (readForm known request).toOption.map make = some form) :
    ∃ fields, readForm known request = .ok fields ∧ form = make fields := by
  cases read : readForm known request with
  | error response =>
      rw [read] at taken
      cases taken
  | ok fields =>
      rw [read] at taken
      exact ⟨fields, rfl, (Option.some.inj taken).symm⟩

/-- A file with a token for the vacation robot under a name with a capital, and one for the poker
robot. -/
def vacationTokenFile : Files where
  entries := [(["relaybot.toml"], .bytes (Text.encodeUtf8
    "[slack.command_tokens]\nVacation=\"0ff\"\npoker=\"old\""))]

/-- Replies can be posted, and the token of the poker robot stands under a name with a capital. -/
def pokerTokenSet : Environment where
  bindings := [("RELAYBOT_SLACK_WEBHOOK_URL", "https://hooks.example.test/in"),
    (tokenVariableLead ++ "Poker", "s3cret")]

/-- A slash command for the status of a robot. -/
def statusCommand (robot token : String) : Request where
  method := "POST"
  path := "/slack"
  query := ""
  contentType := some formContentType
  body := Text.encodeUtf8 ("token=" ++ token ++ "&command=%2F" ++ robot ++ "&text=status")

/-- The tokens that are in force for the robots. -/
def givenTokens : List (String × String) :=
  [("poker", "s3cret"), ("vacation", "0ff")]

/-- Tokens that are not: in another case, or of the file where a variable has another one. -/
def wrongTokens : List (String × String) :=
  [("poker", "S3CRET"), ("poker", "old"), ("vacation", "0FF")]

theorem exists_config_givenTokens :
    ∃ config, Config.load vacationTokenFile pokerTokenSet {} = .ok config ∧
      config.slack.commandTokens = .ofList givenTokens := by
  have made : (Config.load vacationTokenFile pokerTokenSet {}).toOption.map
      (·.slack.commandTokens.entries) = some givenTokens := by
    decide +kernel
  cases loaded : Config.load vacationTokenFile pokerTokenSet {} with
  | error error =>
      rw [loaded] at made
      cases made
  | ok config =>
      rw [loaded] at made
      exact ⟨config, rfl, Dictionary.eq_of_entries_eq (Option.some.inj made)⟩

/-- One of the tokens stands in the file and one in a variable. -/
theorem tokenGiven_of_mem {entry : String × String} (mem : entry ∈ givenTokens) :
    TokenGiven vacationTokenFile pokerTokenSet {} entry.1 := by
  obtain ⟨document, parsed, token⟩ := Option.bind_eq_some_iff.1
    (by decide +kernel : (documentOf? vacationTokenFile pokerTokenSet "relaybot.toml").bind
      (·.token? "Vacation") = some "0ff")
  have file : FileDocument vacationTokenFile pokerTokenSet {} document :=
    .read (by decide +kernel) parsed
  have set : pokerTokenSet.setting? (tokenVariableLead ++ "Poker") = some "s3cret" := by
    decide +kernel
  revert entry
  simp only [givenTokens, List.forall_mem_cons]
  exact ⟨.byVariable set (by decide +kernel), .byFile file token (by decide +kernel), nofun⟩

theorem exists_refused_of_mem {entry : String × String} (mem : entry ∈ wrongTokens) :
    ∃ form, BringsCommand (statusCommand entry.1 entry.2) form ∧
      form.Refused (.ofList givenTokens) (.tokenMismatch entry.1) := by
  have taken : ∀ entry ∈ wrongTokens,
      (readForm (senderNames ++ ["command", "text"])
        (statusCommand entry.1 entry.2)).toOption.map (fun fields => SlashCommand.mk
          (senderOf fields) (fieldOf fields "command") (fieldOf fields "text")) =
        some ⟨⟨entry.2, "", "", "", "", ""⟩, "/" ++ entry.1, "status"⟩ := by
    decide +kernel
  have fails : ∀ entry ∈ wrongTokens,
      SlashCommand.accept (.ofList givenTokens) "req-1"
        ⟨⟨entry.2, "", "", "", "", ""⟩, "/" ++ entry.1, "status"⟩ =
          .error (.tokenMismatch entry.1) := by
    decide +kernel
  exact ⟨_, ⟨rfl, rfl, exists_fields (taken entry mem)⟩,
    SlashCommand.accept_eq_error_iff.1 (fails entry mem)⟩

/-- The token of the variable starts the poker robot, and the token of the file starts the vacation
robot, though both are given under names in another case; with any other token no robot is
started, nothing is sent and the stores stay as they are. -/
theorem poker_started_with_token :
    ∃ config, Config.load vacationTokenFile pokerTokenSet {} = .ok config ∧
      config.slack.commandTokens = .ofList givenTokens ∧
      let service := overDatabase config.slack.commandTokens none
      let respond (robot token : String) :=
        service.respond Poker.Medium.noon "req-1" (statusCommand robot token) { stores := {} }
      (∀ entry ∈ givenTokens,
        TokenGiven vacationTokenFile pokerTokenSet {} entry.1 ∧
        ∃ task form, (respond entry.1 entry.2).1.task = some task ∧
          task.payload.robot = entry.1 ∧
          BringsCommand (statusCommand entry.1 entry.2) form ∧ form.sender.token = entry.2) ∧
      ∀ entry ∈ wrongTokens,
        (respond entry.1 entry.2).1.task = none ∧ (respond entry.1 entry.2).2.messages = [] ∧
          (respond entry.1 entry.2).2.stores = {} := by
  obtain ⟨config, loaded, tokens⟩ := exists_config_givenTokens
  refine ⟨config, loaded, tokens, ?_⟩
  intro service respond
  have asciiKeys : ∀ key ∈ service.registry.keys, Text.IsAscii key :=
    fun _ mem => isAscii_of_mem_crew _ _ mem
  have enforced (robot token : String) := started_with_token loaded
    (rfl : service.tokens = _) asciiKeys (rfl : (statusCommand robot token).path = _)
    Poker.Medium.noon "req-1" { stores := {} }
  simp only [respond]
  constructor
  case left =>
    have started : ∀ entry ∈ givenTokens,
        (service.respond Poker.Medium.noon "req-1" (statusCommand entry.1 entry.2)
          { stores := {} }).1.task.map (·.payload.robot) = some entry.1 := by
      simp only [service, tokens]
      decide +kernel
    have held : ∀ entry ∈ givenTokens,
        config.slack.commandTokens.find? (Text.asciiLowercase entry.1) = some entry.2 := by
      rw [tokens]
      decide +kernel
    intro entry listed
    obtain ⟨task, begun, robot⟩ := Option.map_eq_some_iff.1 (started entry listed)
    obtain ⟨starts, -⟩ := enforced entry.1 entry.2
    obtain ⟨-, form, brings, demanded⟩ := starts task begun
    obtain ⟨token, inForce, same, -⟩ := demanded (robot ▸ tokenGiven_of_mem listed)
    rw [robot] at inForce
    cases (held entry listed).symm.trans inForce
    exact ⟨tokenGiven_of_mem listed, task, form, begun, robot, brings, same⟩
  case right =>
    intro entry listed
    obtain ⟨form, brings, refused⟩ := exists_refused_of_mem listed
    obtain ⟨-, refuses⟩ := enforced entry.1 entry.2
    obtain ⟨task, messages, stores⟩ := refuses _ _ brings (tokens ▸ refused)
    exact ⟨task, messages, stores⟩

end Http.Service

end ChatRobots
