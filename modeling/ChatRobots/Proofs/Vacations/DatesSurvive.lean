/-
Module: ChatRobots.Proofs.Vacations.DatesSurvive
Purpose: Vacations are read from the database as they were created, whatever their years.
Main exports: returned, Call.selects, run_create, run_question, keeps_after,
  returned_eq_created, returned_unique, answered_at, vacations_survive
-/
import ChatRobots.Proofs.Vacations.StoresAgree

namespace ChatRobots.Vacations

/-!
The database has the first and the last day of a vacation as texts.  Their shape changes with the
year, which may have four digits or more and a sign before them, and the signs upset the order of
the texts: a query may leave out a vacation that it should list by its dates.  But whatever it does
list is as it was created, because the text of a date gives the date back in every year of the
calendar.

What was created is known from the answers: each creation is answered with the vacation, and these
answers are what the rows are compared with.
-/

/-- The vacations with which creations were answered, one after another. -/
def returned (answers : List (Except StoreError CallAnswer)) : List Vacation :=
  answers.filterMap fun
    | .ok (.vacation vacation) => some vacation
    | .ok (.vacations _) => none
    | .error _ => none

theorem returned_append (earlier later : List (Except StoreError CallAnswer)) :
    returned (earlier ++ later) = returned earlier ++ returned later :=
  List.filterMap_append

/-- The call asks for the vacation, going by the texts of the dates. -/
def Call.selects : Call → Vacation → Bool
  | create _ _ _ _, _ => false
  | upcoming today, vacation => Database.textLe today.toText vacation.endDate.toText
  | current today, vacation =>
      Database.textLe vacation.startDate.toText today.toText &&
        Database.textLe today.toText vacation.endDate.toText

/-- A call creates a vacation, or it asks a question. -/
theorem Call.creates_or_asks (call : Call) :
    (∃ user description startDate endDate, call = .create user description startDate endDate) ∨
      call.creates? = none := by
  cases call with
  | create user description startDate endDate =>
      exact .inl ⟨user, description, startDate, endDate, rfl⟩
  | upcoming today => exact .inr rfl
  | current today => exact .inr rfl

variable {vacations : List Vacation} {db : Database}

section Steps

variable (keeps : Database.Keeps vacations db)
include keeps

/-- A creation is answered with the vacation that is kept. -/
theorem run_create (user description : String) (startDate endDate : Date) :
    let vacation : Vacation := ⟨vacations.length + 1, user, description, startDate, endDate⟩
    ∃ after, (Call.create user description startDate endDate).run Database.vacationBackend db =
        (.ok (.vacation vacation), after) ∧
      Database.Keeps (vacations ++ [vacation]) after := by
  obtain ⟨after, inserted, kept⟩ := keeps.create user description startDate endDate
  exact ⟨after, run_map_of_ok inserted CallAnswer.vacation, kept⟩

/-- A question is answered with vacations that are kept, and changes nothing. -/
theorem run_question {call : Call} (asks : call.creates? = none) :
    ∃ listed, call.run Database.vacationBackend db = (.ok (.vacations listed), db) ∧
      listed.Perm (vacations.filter call.selects) := by
  cases call with
  | create => cases asks
  | upcoming today =>
      have read := keeps.select fun row => Database.textLe today.toText row.endDate
      exact ⟨_, run_map_of_ok read CallAnswer.vacations, List.mergeSort_perm _ _⟩
  | current today =>
      have read := keeps.select fun row => Database.textLe row.startDate today.toText &&
        Database.textLe today.toText row.endDate
      exact ⟨_, run_map_of_ok read CallAnswer.vacations, List.mergeSort_perm _ _⟩

end Steps

section Runs

variable (opened : db.closed = false) (unused : db.vacations = {})
include opened unused

/-- After any calls the database keeps the vacations that were created. -/
theorem keeps_after (calls : List Call) :
    Database.Keeps (created calls)
      (Act.runAll (Call.run Database.vacationBackend) calls db).2 := by
  have begins : Database.Keeps (created []) db := ⟨opened, by rw [unused]; rfl, by rw [unused]; rfl⟩
  refine Act.runAll_reaches (fun calls db => Database.Keeps (created calls) db) begins ?_ calls
  intro earlier between call keeps
  obtain ⟨user, description, startDate, endDate, rfl⟩ | asks := call.creates_or_asks
  · obtain ⟨after, ran, kept⟩ := run_create keeps user description startDate endDate
    rw [ran, created_append_create]
    exact kept
  · obtain ⟨_, ran, _⟩ := run_question keeps asks
    rw [ran, created_append_question earlier asks]
    exact keeps

/-- Creations are answered with the vacations as they were asked for, numbered one by one. -/
theorem returned_eq_created (calls : List Call) :
    returned (Act.runAll (Call.run Database.vacationBackend) calls db).1 = created calls := by
  induction calls using List.reverseRecOn with
  | nil => rfl
  | append_singleton calls call ih =>
      have keeps := keeps_after opened unused calls
      rw [Act.runAll_append, returned_append, ih, Act.runAll_cons]
      obtain ⟨user, description, startDate, endDate, rfl⟩ | asks := call.creates_or_asks
      · obtain ⟨_, ran, _⟩ := run_create keeps user description startDate endDate
        rw [ran, created_append_create]
        rfl
      · obtain ⟨_, ran, _⟩ := run_question keeps asks
        rw [ran, created_append_question calls asks]
        exact List.append_nil _

/-- No two vacations were given one number. -/
theorem returned_unique (calls : List Call) {a b : Vacation}
    (first : a ∈ returned (Act.runAll (Call.run Database.vacationBackend) calls db).1)
    (second : b ∈ returned (Act.runAll (Call.run Database.vacationBackend) calls db).1)
    (same : a.id = b.id) : a = b := by
  rw [returned_eq_created opened unused] at first second
  have ids : ((created calls).map (·.id)).Nodup :=
    List.pairwise_map.2 ((rising_created calls).1.imp Int.ne_of_lt)
  exact List.inj_on_of_nodup_map ids first second same

/-- A question is answered with vacations that were created before it. -/
theorem answered_at (calls : List Call) (place : Fin calls.length)
    (asks : (calls.get place).creates? = none) :
    let answers := (Act.runAll (Call.run Database.vacationBackend) calls db).1
    ∃ listed, answers[place.val]? = some (.ok (.vacations listed)) ∧
      listed.Perm ((returned (answers.take place)).filter (calls.get place).selects) := by
  have keeps := keeps_after opened unused (calls.take place)
  obtain ⟨listed, ran, perm⟩ := run_question keeps asks
  refine ⟨listed, ?_, ?_⟩
  · rw [Act.getElem?_runAll]
    exact congrArg (fun step => some step.1) ran
  · rwa [Act.take_runAll, returned_eq_created opened unused]

end Runs

/-- Dates survive being written, in every year of the calendar: the text of a date gives it back
and belongs to no other date.  So in a database that is open and has had no vacations, creations
are answered with what was asked for, and questions never fail: each lists vacations just as
creations before it were answered with them, and no other creation was answered with the number of
one of these. -/
theorem vacations_survive (opened : db.closed = false) (unused : db.vacations = {})
    (calls : List Call) :
    (∀ date : Date, Date.ofText date.toText = .ok date) ∧ Function.Injective Date.toText ∧
      let answers := (Act.runAll (Call.run Database.vacationBackend) calls db).1
      returned answers = created calls ∧
        ∀ place : Fin calls.length, (calls.get place).creates? = none →
          ∃ listed, answers[place.val]? = some (.ok (.vacations listed)) ∧
            listed.Perm ((returned (answers.take place)).filter (calls.get place).selects) ∧
            ∀ vacation ∈ listed, ∀ other ∈ returned answers,
              other.id = vacation.id → other = vacation := by
  refine ⟨Date.ofText_toText, Date.toText_injective, returned_eq_created opened unused calls, ?_⟩
  intro place asks
  obtain ⟨listed, answered, lists⟩ := answered_at opened unused calls place asks
  refine ⟨listed, answered, lists, ?_⟩
  intro vacation member other otherMember same
  have before := List.mem_of_mem_filter (lists.subset member)
  have among := ((List.take_sublist place _).filterMap _).subset before
  exact returned_unique opened unused calls otherMember among same

/-- A database in which a setting was saved, but no vacation. -/
def furnished : Database :=
  { settings := ({} : Table SettingRow).insert fun id => ⟨id, "ann", "board", "green"⟩ }

/-- One user is away up to year zero, another from year 10000 on; then it is asked who will be. -/
def ages : List Call :=
  [.create "ann" "Ice" ⟨-262143, 1, 1, by decide⟩ ⟨0, 12, 31, by decide⟩,
    .create "bob" "Stars" ⟨10000, 1, 1, by decide⟩ ⟨262142, 12, 31, by decide⟩,
    .upcoming ⟨10000, 2, 29, by decide⟩]

/-- Both vacations are listed, the older one as well: the texts of their last days come after that
of the day that is asked about.  The dates are the ones that were written. -/
theorem ages_survive :
    furnished.closed = false ∧ furnished.vacations = {} ∧
      ∃ listed, (Act.runAll (Call.run Database.vacationBackend) ages furnished).1[2]? =
          some (.ok (.vacations listed)) ∧
        listed.Perm
          [⟨1, "ann", "Ice", ⟨-262143, 1, 1, by decide⟩, ⟨0, 12, 31, by decide⟩⟩,
            ⟨2, "bob", "Stars", ⟨10000, 1, 1, by decide⟩, ⟨262142, 12, 31, by decide⟩⟩] := by
  have opened : furnished.closed = false := rfl
  have unused : furnished.vacations = {} := rfl
  obtain ⟨-, -, -, lists⟩ := vacations_survive opened unused ages
  obtain ⟨listed, answered, before, -⟩ := lists ⟨2, by decide⟩ rfl
  exact ⟨opened, unused, listed, answered, before⟩

end ChatRobots.Vacations
