/-
Module: ChatRobots.Proofs.Robot.SettingsLifecycle
Purpose: What a user sets can be found, listed and taken away under the name that was shown.
Main exports: Settings.parseAssignment?_eq_some_iff, SettingsRobot.Says,
  SettingsRobot.confirmed_set, SettingsRobot.answered_list, SettingsRobot.answered_remove,
  SettingsRobot.set_name_is_removable
-/
import ChatRobots.Proofs.Command.Grammar
import ChatRobots.Proofs.Robot.SettingsIsolation
import ChatRobots.Proofs.Robot.SettingsSecrecy
import ChatRobots.Proofs.Settings.Entries

namespace ChatRobots

open Settings

/-!
A name is trimmed when it is set, and it is trimmed again when it is taken away: once as the text
that follows the verb and once as a name.  Trimming what is trimmed changes nothing, so the name
that a confirmation shows is the name under which the store keeps the value, whatever colons, tabs
and runs of spaces it holds.
-/

namespace Settings

/-- An assignment is a name that is not blank before the first equals sign, and a value after it;
the blanks around the two do not belong to them. -/
theorem parseAssignment?_eq_some_iff {text : List Char} {name value : String} :
    parseAssignment? (String.ofList text) = some (name, value) ↔
      ∃ before after, text = before ++ '=' :: after ∧ '=' ∉ before ∧ Text.trim before ≠ [] ∧
        name = String.ofList (Text.trim before) ∧ value = String.ofList (Text.trim after) := by
  rw [parseAssignment?, String.toList_ofList]
  constructor
  · intro assigned
    cases cut : Text.cut? '=' text with
    | none => simp [cut] at assigned
    | some parts =>
        obtain ⟨before, after⟩ := parts
        obtain ⟨written, first⟩ := Text.cut?_eq_some cut
        simp only [cut, List.isEmpty_iff, Option.ite_none_left_eq_some, Option.some.injEq,
          Prod.mk.injEq] at assigned
        obtain ⟨filled, rfl, rfl⟩ := assigned
        exact ⟨before, after, written, first, filled, rfl, rfl⟩
  · rintro ⟨before, after, rfl, first, filled, rfl, rfl⟩
    simp [Text.cut?_of_notMem first, filled]

/-- The blanks around an assignment do not belong to it either. -/
theorem parseAssignment?_trim (text : List Char) :
    parseAssignment? (String.ofList (Text.trim text)) = parseAssignment? (String.ofList text) := by
  by_cases assigns : '=' ∈ text
  · obtain ⟨before, after, rfl, first⟩ := List.eq_append_cons_of_mem assigns
    have first' : '=' ∉ Text.trimStart before := fun member =>
      first ((List.dropWhile_sublist _).subset member)
    have solid : Text.isBlank '=' = false := by decide
    rw [Text.trim, Text.trimStart_append_cons solid, Text.trimEnd_append_cons solid]
    simp [parseAssignment?, Text.cut?_of_notMem first, Text.cut?_of_notMem first']
  · have unassigned : '=' ∉ Text.trim text := fun member => assigns (Text.mem_of_mem_trim member)
    simp [parseAssignment?, Text.cut?_eq_none_iff.2 assigns, Text.cut?_eq_none_iff.2 unassigned]

end Settings

namespace SettingsRobot

/-- In this scene the robot answers the payload with one message, which has this text. -/
def Says {σ : Type} (robot : Robot σ) (clock : Clock) (payload : Payload) (text : String)
    (scene : Scene σ) : Prop :=
  (robot.run clock payload scene).2.messages =
    scene.messages ++ [robot.messenger.message payload text]

/-- The payload of the user asks for the name to be taken away, by one of the four verbs. -/
def Removes (user name : String) (payload : Payload) : Prop :=
  payload.userName = user ∧
    ∃ verb ∈ ["remove", "rem", "del", "delete"], payload.text = verb ++ " " ++ name

section Commands

variable {σ : Type} {store : Backend σ} (entryWise : EntryWise store) {teamDomain : Option String}
  {scene : Scene σ} {payload : Payload}

theorem says_iff {reply : Reply} {stores : σ} (clock : Clock) (text : String)
    (answered : (messenger teamDomain).Answered "store" payload (reply, stores) scene
      ((robot store teamDomain).run clock payload scene).2) :
    Says (robot store teamDomain) clock payload text scene ↔
      scene.refusal = none ∧ reply.texts = [text] := by
  cases delivery : scene.refusal with
  | none => exact (answered.one_message_iff delivery text).trans (by simp)
  | some error =>
      rw [Says, (answered.refused error delivery).1]
      simp

/-- What is asked for by the verb and an assignment. -/
theorem action?_set {assignment : String} (asks : payload.text = "set " ++ assignment) :
    (router (messenger teamDomain)).action? (.parse payload.text) = some .set ∧
      parseAssignment? (Command.parse payload.text).rawArgs =
        parseAssignment? (String.ofList assignment.toList) := by
  have spelled : "set " = "set" ++ " " := by decide +kernel
  have solid : "set".toList ≠ [] ∧ Text.Solid "set".toList := by decide +kernel
  obtain ⟨verb_eq, args⟩ := Command.parse_verb_append solid.1 solid.2 assignment
  rw [← spelled, ← asks] at verb_eq args
  constructor
  · rw [Router.action?, Command.isDefault, verb_eq]
    rfl
  · rw [args, parseAssignment?_trim]

theorem begins_confirmation (name : String) : Begins "Succ" ("Successfully set " ++ name) :=
  Begins.append (by decide +kernel) name

/-- What is no assignment is not confirmed. -/
theorem not_says_of_malformed {clock : Clock} {assignment : String}
    (asks : payload.text = "set " ++ assignment)
    (malformed : parseAssignment? (String.ofList assignment.toList) = none) (name : String) :
    ¬ Says (robot store teamDomain) clock payload ("Successfully set " ++ name) scene := by
  obtain ⟨asked, given⟩ := action?_set asks
  have replied : reply store .set payload (.parse payload.text) scene =
      (.ok "Malformed setting. Use /store set PARAM=value.",
        { scene with stores := scene.stores }) := by
    simp only [reply, given, malformed]
    rfl
  intro confirmed
  obtain ⟨-, same⟩ := (says_iff clock _ (answered_of_reply clock asked replied)).1 confirmed
  have apart := (begins_refl "Malformed setting. Use /store set PARAM=value.").ne
    (begins_confirmation name) (by decide +kernel)
  exact apart (List.cons.inj same).1

/-- What the store does not take is not confirmed. -/
theorem not_says_of_failed {clock : Clock} {assignment name' value : String} {error : StoreError}
    {stores : σ} (asks : payload.text = "set " ++ assignment)
    (assigns : parseAssignment? (String.ofList assignment.toList) = some (name', value))
    (failed : store.set payload.userName name' value scene.stores = (.error error, stores))
    (name : String) :
    ¬ Says (robot store teamDomain) clock payload ("Successfully set " ++ name) scene := by
  obtain ⟨asked, given⟩ := action?_set asks
  have replied : reply store .set payload (.parse payload.text) scene =
      (.error (.store error), { scene with stores := stores }) := by
    simp only [reply, given, assigns]
    exact run_bind_of_error (run_callStore_of_error failed)
  intro confirmed
  obtain ⟨-, same⟩ := (says_iff clock _ (answered_of_reply clock asked replied)).1 confirmed
  have reports := (router (messenger teamDomain)).begins_report (.store error)
  exact reports.ne (begins_confirmation name) (by decide +kernel) (List.cons.inj same).1

/-- What a confirmation tells: the assignment was one to this name, and the store has its value. -/
theorem confirmed_set {clock : Clock} {assignment name : String}
    (asks : payload.text = "set " ++ assignment)
    (confirmed : Says (robot store teamDomain) clock payload ("Successfully set " ++ name) scene) :
    ∃ before after stores, assignment.toList = before ++ '=' :: after ∧ '=' ∉ before ∧
      name ≠ "" ∧ Text.Trimmed name.toList ∧ scene.refusal = none ∧
      entryWise.Usable scene.stores ∧
      (messenger teamDomain).Answered "store" payload
        (⟨"Successfully set " ++ name, []⟩, stores) scene
        ((robot store teamDomain).run clock payload scene).2 ∧
      entryWise.Usable stores ∧
      Wrote payload.userName name (some (String.ofList (Text.trim after)))
        (entryWise.value? scene.stores) (entryWise.value? stores) := by
  obtain ⟨asked, given⟩ := action?_set asks
  cases assigns : parseAssignment? (String.ofList assignment.toList) with
  | none => exact absurd confirmed (not_says_of_malformed asks assigns name)
  | some parts =>
      obtain ⟨name', value⟩ := parts
      generalize called : store.set payload.userName name' value scene.stores = ended
      obtain ⟨result, stores⟩ := ended
      cases result with
      | error error => exact absurd confirmed (not_says_of_failed asks assigns called name)
      | ok setting =>
          have replied : reply store .set payload (.parse payload.text) scene =
              (.ok ("Successfully set " ++ name'), { scene with stores := stores }) := by
            simp only [reply, given, assigns]
            exact run_bind_of_ok (run_callStore_of_ok called)
          have answered := answered_of_reply clock asked replied
          obtain ⟨working, same⟩ := (says_iff clock _ answered).1 confirmed
          obtain rfl : name' = name := (String.append_right_inj _).1 (List.cons.inj same).1
          obtain ⟨before, after, parts, first, filled, rfl, rfl⟩ :=
            parseAssignment?_eq_some_iff.1 assigns
          have usable := entryWise.usable_of_set (congrArg Prod.fst called)
          obtain ⟨stores', done, still, wrote⟩ := entryWise.set usable payload.userName
            (String.ofList (Text.trim before)) (String.ofList (Text.trim after))
          obtain rfl : stores = stores' := congrArg Prod.snd (called.symm.trans done)
          refine ⟨before, after, stores, parts, first, ?_, ?_, working, usable, answered, still,
            wrote⟩
          · simpa using filled
          · rw [String.toList_ofList]
            exact Text.trimmed_trim before

variable (teamDomain)

theorem answered_list (usable : entryWise.Usable scene.stores) (clock : Clock)
    (asks : payload.text = "list") : ∃ settings,
    store.list payload.userName scene.stores = (.ok settings, scene.stores) ∧
      (∀ name, name ∈ settings.map Setting.name ↔
        (entryWise.value? scene.stores (payload.userName, name)).isSome) ∧
      (messenger teamDomain).Answered "store" payload
        (⟨listing payload.userName settings, []⟩, scene.stores) scene
        ((robot store teamDomain).run clock payload scene).2 := by
  obtain ⟨settings, listed, names⟩ := entryWise.list usable payload.userName
  have verb : (Command.parse "list").verb = "list" := by decide +kernel
  have asked : (router (messenger teamDomain)).action? (.parse payload.text) = some .list := by
    rw [asks, Router.action?, Command.isDefault, verb]
    rfl
  have replied : reply store .list payload (.parse payload.text) scene =
      (.ok (listing payload.userName settings), { scene with stores := scene.stores }) :=
    run_bind_of_ok (run_callStore_of_ok listed)
  exact ⟨settings, listed, names, answered_of_reply clock asked replied⟩

/-- A name is taken away if it is there, and the reply says which. -/
theorem answered_remove (usable : entryWise.Usable scene.stores) (clock : Clock) {name : String}
    (filled : name ≠ "") (trimmed : Text.Trimmed name.toList)
    (asks : Removes payload.userName name payload) : ∃ after,
    (messenger teamDomain).Answered "store" payload
        (⟨if (entryWise.value? scene.stores (payload.userName, name)).isSome then
          "Successfully removed " ++ name else "Setting " ++ name ++ " not found", []⟩, after) scene
        ((robot store teamDomain).run clock payload scene).2 ∧
      entryWise.Usable after ∧
      Wrote payload.userName name none (entryWise.value? scene.stores)
        (entryWise.value? after) := by
  obtain ⟨-, verb, known, text⟩ := asks
  have solid : ∀ verb ∈ ["remove", "rem", "del", "delete"],
      verb.toList ≠ [] ∧ Text.Solid verb.toList := by decide +kernel
  obtain ⟨filled', solid⟩ := solid verb known
  obtain ⟨verb_eq, args⟩ := Command.parse_verb_append filled' solid name
  rw [← text] at verb_eq args
  rw [Text.trim_eq_self trimmed, String.ofList_toList] at args
  have asked : (router (messenger teamDomain)).action? (.parse payload.text) = some .remove := by
    rw [Router.action?, Command.isDefault, verb_eq]
    simp only [List.mem_cons, List.not_mem_nil, or_false] at known
    rcases known with rfl | rfl | rfl | rfl <;> rfl
  obtain ⟨after, removed, still, wrote⟩ := entryWise.remove usable payload.userName name
  have replied : reply store .remove payload (.parse payload.text) scene =
      (.ok (if (entryWise.value? scene.stores (payload.userName, name)).isSome then
        "Successfully removed " ++ name else "Setting " ++ name ++ " not found"),
        { scene with stores := after }) := by
    unfold reply
    simp only [args, Text.trim_eq_self trimmed, String.ofList_toList, if_neg filled]
    rw [run_bind_of_ok (run_callStore_of_ok removed)]
    split <;> rfl
  exact ⟨after, answered_of_reply clock asked replied, still, wrote⟩

/-- A name that has a value is listed. -/
theorem listed_of_held (usable : entryWise.Usable scene.stores) (working : scene.refusal = none)
    {user name : String} (held : (entryWise.value? scene.stores (user, name)).isSome)
    (clock : Clock) (own : payload.userName = user) (asks : payload.text = "list") :
    let robot := SettingsRobot.robot store teamDomain
    ∃ settings, (store.list user scene.stores).1 = .ok settings ∧
      name ∈ settings.map Setting.name ∧
      Says robot clock payload ("You have the following settings configured:\n" ++
        "\n".intercalate (settings.map Setting.name)) scene ∧
      (robot.run clock payload scene).2.stores = scene.stores := by
  subst own
  obtain ⟨settings, listed, names, answered⟩ :=
    answered_list entryWise teamDomain usable clock asks
  have member := (names name).2 held
  have some_setting : settings.isEmpty = false := by
    cases settings with
    | nil => simp at member
    | cons _ _ => rfl
  refine ⟨settings, by rw [listed], member, ?_, answered.stores⟩
  refine (says_iff clock _ answered).2 ⟨working, ?_⟩
  simp [Reply.texts, listing, some_setting]

/-- A name that has a value is taken away, and nothing else is. -/
theorem removed_of_held (usable : entryWise.Usable scene.stores) (working : scene.refusal = none)
    {user name : String} (held : (entryWise.value? scene.stores (user, name)).isSome)
    (clock : Clock) (filled : name ≠ "") (trimmed : Text.Trimmed name.toList)
    (removes : Removes user name payload) :
    let robot := SettingsRobot.robot store teamDomain
    let removed := (robot.run clock payload scene).2
    Says robot clock payload ("Successfully removed " ++ name) scene ∧
      removed.refusal = none ∧ entryWise.Usable removed.stores ∧
      Wrote user name none (entryWise.value? scene.stores) (entryWise.value? removed.stores) := by
  obtain rfl := removes.1
  obtain ⟨stores, answered, still, wrote⟩ :=
    answered_remove entryWise teamDomain usable clock filled trimmed removes
  obtain rfl := answered.stores
  rw [if_pos held] at answered
  exact ⟨(says_iff clock _ answered).2 ⟨working, rfl⟩, answered.refusal.trans working, still,
    wrote⟩

/-- A name without a value is not found. -/
theorem not_found_of_gone (usable : entryWise.Usable scene.stores) (working : scene.refusal = none)
    {user name : String} (gone : entryWise.value? scene.stores (user, name) = none) (clock : Clock)
    (filled : name ≠ "") (trimmed : Text.Trimmed name.toList)
    (removes : Removes user name payload) :
    Says (robot store teamDomain) clock payload ("Setting " ++ name ++ " not found") scene := by
  obtain rfl := removes.1
  obtain ⟨stores, answered, -⟩ :=
    answered_remove entryWise teamDomain usable clock filled trimmed removes
  rw [gone] at answered
  exact (says_iff clock _ answered).2 ⟨working, rfl⟩

end Commands

end SettingsRobot

/-- The settings of the crew, entry by entry, wherever they are kept. -/
def Poker.Medium.settingsEntryWise :
    (medium : Poker.Medium) → EntryWise medium.crewStores.settings
  | .memory => Settings.Memory.entryWise.within MemoryStores.settings_put MemoryStores.put_settings
  | .database => Database.settingsEntryWise

namespace SettingsRobot

/-- Whenever the robot confirms that a name was set, in whatever state the store was, the user has
the value under this name and finds the name in the list of settings.  Each of the verbs takes the
name away; then it is gone, cannot be taken away again, and every other entry is what it was before
the name was set. -/
theorem set_name_is_removable (medium : Poker.Medium) (teamDomain : Option String) {clock : Clock}
    {payload : Payload} {scene : Scene medium.CrewState} {assignment name : String}
    (asks : payload.text = "set " ++ assignment)
    (confirmed : Says (robot medium.crewStores.settings teamDomain) clock payload
      ("Successfully set " ++ name) scene) :
    let store := medium.crewStores.settings
    let robot := SettingsRobot.robot store teamDomain
    let user := payload.userName
    let set := (robot.run clock payload scene).2
    (∃ before after, assignment.toList = before ++ '=' :: after ∧ '=' ∉ before ∧
      (store.get user name set.stores).1 =
        .ok (some ⟨user, name, String.ofList (Text.trim after)⟩)) ∧
    (∀ clock' payload', payload'.userName = user → payload'.text = "list" →
      ∃ settings, (store.list user set.stores).1 = .ok settings ∧
        name ∈ settings.map Setting.name ∧
        Says robot clock' payload' ("You have the following settings configured:\n" ++
          "\n".intercalate (settings.map Setting.name)) set ∧
        (robot.run clock' payload' set).2.stores = set.stores) ∧
    ∀ clock' payload', Removes user name payload' →
      let removed := (robot.run clock' payload' set).2
      Says robot clock' payload' ("Successfully removed " ++ name) set ∧
      (store.get user name removed.stores).1 = .ok none ∧
      (∀ clock'' payload'', Removes user name payload'' →
        Says robot clock'' payload'' ("Setting " ++ name ++ " not found") removed) ∧
      ∀ user' name', (user', name') ≠ (user, name) →
        (store.get user' name' removed.stores).1 = (store.get user' name' scene.stores).1 := by
  have entryWise := medium.settingsEntryWise
  obtain ⟨before, after, stores, parts, first, filled, trimmed, working, usable, answered, still,
    wrote⟩ := confirmed_set entryWise asks confirmed
  dsimp only
  generalize ((robot medium.crewStores.settings teamDomain).run clock payload scene).2 = set
    at answered ⊢
  obtain rfl : set.stores = stores := answered.stores
  have working' : set.refusal = none := answered.refusal.trans working
  have value : entryWise.value? set.stores (payload.userName, name) =
      some (String.ofList (Text.trim after)) := by
    rw [wrote, Function.update_self]
  have held : (entryWise.value? set.stores (payload.userName, name)).isSome :=
    Option.isSome_of_eq_some value
  refine ⟨⟨before, after, parts, first, ?found⟩, fun clock' _ own lists =>
    listed_of_held entryWise teamDomain still working' held clock' own lists, ?removed⟩
  case found =>
    rw [entryWise.get still, value]
    rfl
  case removed =>
    intro clock' payload' removes
    obtain ⟨told, working'', still', wrote'⟩ :=
      removed_of_held entryWise teamDomain still working' held clock' filled trimmed removes
    generalize ((robot medium.crewStores.settings teamDomain).run clock' payload' set).2 = removed
      at working'' still' wrote' ⊢
    have gone : entryWise.value? removed.stores (payload.userName, name) = none := by
      rw [wrote', Function.update_self]
    refine ⟨told, ?gone, fun clock'' _ removes' =>
      not_found_of_gone entryWise teamDomain still' working'' gone clock'' filled trimmed removes',
      ?others⟩
    case gone =>
      rw [entryWise.get still', gone]
      rfl
    case others =>
      intro user' name' other
      rw [entryWise.get still', entryWise.get usable, wrote', wrote, Function.update_idem,
        Function.update_of_ne other]

/-- A setting of one user, and one of another under the name that is going to be set. -/
def boards : MemoryStores where
  settings := ⟨[⟨"ann", "token", "s3cret"⟩, ⟨"bob", "jira:my  board", "OPS"⟩]⟩

/-- A board is set under a name with a colon and a run of spaces. -/
def boardSet : Clock × Payload :=
  request "ann" "set  jira:my  board = ENG=1 "

/-- The board is taken away by a short verb. -/
def boardRemoved : Clock × Payload :=
  request "ann" "rem jira:my  board"

/-- The board is found and taken away, and the board of the other user stays. -/
theorem board_is_removable :
    let store := Poker.Medium.memory.crewStores.settings
    let robot := SettingsRobot.robot store none
    let user := boardSet.2.userName
    let name := "jira:my  board"
    let set := (robot.run boardSet.1 boardSet.2 { stores := boards }).2
    let removed := (robot.run boardRemoved.1 boardRemoved.2 set).2
    Says robot boardSet.1 boardSet.2 ("Successfully set " ++ name) { stores := boards } ∧
      (∃ before after, " jira:my  board = ENG=1 ".toList = before ++ '=' :: after ∧ '=' ∉ before ∧
        (store.get user name set.stores).1 =
          .ok (some ⟨user, name, String.ofList (Text.trim after)⟩)) ∧
      Says robot boardRemoved.1 boardRemoved.2 ("Successfully removed " ++ name) set ∧
      (store.get user name removed.stores).1 = .ok none ∧
      (store.get "bob" name removed.stores).1 = (store.get "bob" name boards).1 := by
  dsimp only
  have asks : boardSet.2.text = "set " ++ " jira:my  board = ENG=1 " := by decide +kernel
  have confirmed : Says (robot Poker.Medium.memory.crewStores.settings none) boardSet.1 boardSet.2
      ("Successfully set " ++ "jira:my  board") { stores := boards } := by
    unfold Says
    decide +kernel
  have removes : Removes boardSet.2.userName "jira:my  board" boardRemoved.2 :=
    ⟨rfl, "rem", by decide, by decide +kernel⟩
  have other : ("bob", "jira:my  board") ≠ (boardSet.2.userName, "jira:my  board") := by decide
  obtain ⟨found, -, taken⟩ := set_name_is_removable .memory none asks confirmed
  obtain ⟨gone, absent, -, others⟩ := taken _ _ removes
  exact ⟨confirmed, found, gone, absent, others _ _ other⟩

end SettingsRobot

end ChatRobots
