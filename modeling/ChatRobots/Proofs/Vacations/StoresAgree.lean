/-
Module: ChatRobots.Proofs.Vacations.StoresAgree
Purpose: The two vacation stores answer every run of calls alike.
Main exports: Call, CallAnswer, created, Precedes, Lists, Tells, Tells.unique,
  stores_answer_alike
-/
import Mathlib.Data.List.Induction
import Mathlib.Data.List.Sort
import ChatRobots.Proofs.CallRuns
import ChatRobots.Proofs.Database.VacationRows

namespace ChatRobots.Vacations

/-!
Vacations are numbered in the order of their creation and never change, so the calls made so far
say which there are.  A listing selects from them and sorts by the first day; as no two have one
number, the order leaves no choice.  Memory sorts the dates and the database their texts, which
comes to the same as long as all years are plain.
-/

/-- A call of a vacation store. -/
inductive Call where
  | create (user description : String) (startDate endDate : Date)
  | upcoming (today : Date)
  | current (today : Date)
deriving DecidableEq

/-- What a call answers when it does not fail. -/
inductive CallAnswer where
  | vacation (vacation : Vacation)
  | vacations (vacations : List Vacation)
deriving DecidableEq

namespace Call

/-- Make the call. -/
def run {σ : Type} (store : Backend σ) : Call → Act σ CallAnswer
  | create user description startDate endDate =>
      .vacation <$> store.create user description startDate endDate
  | upcoming today => .vacations <$> store.upcoming today
  | current today => .vacations <$> store.current today

/-- The dates that are given with the call. -/
def dates : Call → List Date
  | create _ _ startDate endDate => [startDate, endDate]
  | upcoming today => [today]
  | current today => [today]

/-- The vacation that the call creates, when it is given its number. -/
def creates? : Call → Option (Int → Vacation)
  | create user description startDate endDate =>
      some fun id => ⟨id, user, description, startDate, endDate⟩
  | upcoming _ => none
  | current _ => none

end Call

/-- The vacations that the calls create, numbered from one on. -/
def created (calls : List Call) : List Vacation :=
  (calls.filterMap Call.creates?).mapIdx fun place numbered => numbered (place + 1)

/-- A vacation comes before another one: it starts earlier, or it was created earlier and both
start together. -/
def Precedes (a b : Vacation) : Prop :=
  a.startDate ≤ b.startDate ∧ (a.startDate = b.startDate → a.id < b.id)

instance (a b : Vacation) : Decidable (Precedes a b) :=
  inferInstanceAs (Decidable (_ ∧ _))

/-- These of the vacations, each once, earlier starts first and those of one start as they were
created. -/
structure Lists (vacations : List Vacation) (test : Vacation → Prop) (listed : List Vacation) :
    Prop where
  mem_iff : ∀ vacation, vacation ∈ listed ↔ vacation ∈ vacations ∧ test vacation
  ordered : listed.Pairwise Precedes

/-- The call is answered as it should be where these vacations were created before. -/
inductive Tells (vacations : List Vacation) : Call → CallAnswer → Prop where
  | create (user description : String) (startDate endDate : Date) :
      Tells vacations (.create user description startDate endDate)
        (.vacation ⟨vacations.length + 1, user, description, startDate, endDate⟩)
  | upcoming {today : Date} {listed : List Vacation}
      (lists : Lists vacations (fun vacation => today ≤ vacation.endDate) listed) :
      Tells vacations (.upcoming today) (.vacations listed)
  | current {today : Date} {listed : List Vacation}
      (lists : Lists vacations
        (fun vacation => vacation.startDate ≤ today ∧ today ≤ vacation.endDate) listed) :
      Tells vacations (.current today) (.vacations listed)

section Created

theorem created_append_create (calls : List Call) (user description : String)
    (startDate endDate : Date) :
    created (calls ++ [.create user description startDate endDate]) =
      created calls ++
        [⟨(created calls).length + 1, user, description, startDate, endDate⟩] := by
  have last : [Call.create user description startDate endDate].filterMap Call.creates? =
      [fun id => ⟨id, user, description, startDate, endDate⟩] := rfl
  rw [created, List.filterMap_append, last, List.mapIdx_concat, created, List.length_mapIdx]

theorem created_append_question (calls : List Call) {call : Call} (asks : call.creates? = none) :
    created (calls ++ [call]) = created calls := by
  simp [created, List.filterMap_append, asks]

/-- The numbers rise, up to how many vacations there are. -/
theorem rising_created (calls : List Call) :
    (created calls).Pairwise (fun a b => a.id < b.id) ∧
      ∀ vacation ∈ created calls, vacation.id ≤ (created calls).length := by
  induction calls using List.reverseRecOn with
  | nil => exact ⟨.nil, fun _ member => absurd member List.not_mem_nil⟩
  | append_singleton calls call ih =>
      obtain ⟨rising, bounded⟩ := ih
      cases call with
      | upcoming today =>
          rw [created_append_question calls rfl]
          exact ⟨rising, bounded⟩
      | current today =>
          rw [created_append_question calls rfl]
          exact ⟨rising, bounded⟩
      | create user description startDate endDate =>
          rw [created_append_create, List.length_append, List.length_singleton]
          constructor
          · refine List.pairwise_append.2 ⟨rising, List.pairwise_singleton _ _, ?_⟩
            intro vacation member new isNew
            rw [List.mem_singleton.1 isNew]
            exact Int.lt_add_one_iff.2 (bounded vacation member)
          · intro vacation member
            rcases List.mem_append.1 member with old | new
            · exact Int.le_trans (bounded vacation old) (Int.ofNat_le.2 (Nat.le_succ _))
            · rw [List.mem_singleton.1 new]
              exact Int.le_refl _

end Created

section Order

variable {a b : Vacation}

theorem startLe_iff : a.startLe b = true ↔
    a.startDate ≤ b.startDate ∧ (a.startDate = b.startDate → a.id ≤ b.id) := by
  unfold Vacation.startLe
  split
  · rename_i together
    simp [together, Date.le_refl]
  · rename_i apart
    simp [apart]

theorem startLe_trans (a b c : Vacation) (first : a.startLe b = true)
    (second : b.startLe c = true) : a.startLe c = true := by
  rw [startLe_iff] at *
  refine ⟨Date.le_trans first.1 second.1, fun together => ?_⟩
  have start : a.startDate = b.startDate := Date.le_antisymm first.1 (together ▸ second.1)
  exact Int.le_trans (first.2 start) (second.2 (start ▸ together))

theorem startLe_total (a b : Vacation) : (a.startLe b || b.startLe a) = true := by
  rw [Bool.or_eq_true, startLe_iff, startLe_iff]
  by_cases together : a.startDate = b.startDate
  · simpa [together, Date.le_refl] using Int.le_total a.id b.id
  · simpa [together, Ne.symm together] using Date.le_total a.startDate b.startDate

variable {vacations listed listed' : List Vacation}

theorem Lists.of_perm {test : Vacation → Prop} [DecidablePred test]
    (permuted : listed.Perm (vacations.filter (test ·)))
    (ordered : listed.Pairwise Precedes) : Lists vacations test listed where
  mem_iff vacation := by rw [permuted.mem_iff, List.mem_filter, decide_eq_true_iff]
  ordered := ordered

/-- There is one list of these vacations that is in order. -/
theorem Lists.unique {test : Vacation → Prop} (lists : Lists vacations test listed)
    (again : Lists vacations test listed') : listed = listed' := by
  have irrefl : Std.Irrefl Precedes := ⟨fun a before => Int.lt_irrefl a.id (before.2 rfl)⟩
  have antisymm : Std.Antisymm Precedes := by
    constructor
    rintro a b ⟨le, less⟩ ⟨ge, more⟩
    have together : a.startDate = b.startDate := Date.le_antisymm le ge
    exact absurd (Int.lt_trans (less together) (more together.symm)) (Int.lt_irrefl a.id)
  apply List.Pairwise.eq_of_mem_iff lists.ordered again.ordered
  intro vacation
  rw [lists.mem_iff, again.mem_iff]

/-- Only one answer to a call is as it should be. -/
theorem Tells.unique {call : Call} {answer answer' : CallAnswer}
    (tells : Tells vacations call answer) (again : Tells vacations call answer') :
    answer = answer' := by
  cases tells with
  | create =>
      cases again
      rfl
  | upcoming lists =>
      cases again with
      | upcoming lists' => rw [lists.unique lists']
  | current lists =>
      cases again with
      | current lists' => rw [lists.unique lists']

/-- Sorting what satisfies a test lists it, if no number was given twice. -/
theorem lists_mergeSort (numbered : vacations.Pairwise fun a b => a.id < b.id)
    (test : Vacation → Bool) :
    Lists vacations (fun vacation => test vacation = true)
      ((vacations.filter test).mergeSort Vacation.startLe) := by
  have permuted := List.mergeSort_perm (vacations.filter test) Vacation.startLe
  refine .of_perm (by simpa using permuted) ?_
  have distinct : (vacations.filter test).Pairwise fun a b => a.id ≠ b.id :=
    (numbered.filter test).imp Int.ne_of_lt
  have distinct' := permuted.symm.pairwise distinct fun apart => apart.symm
  have sorted := List.pairwise_mergeSort startLe_trans startLe_total (vacations.filter test)
  refine (sorted.and distinct').imp ?_
  rintro a b ⟨le, apart⟩
  obtain ⟨start, number⟩ := startLe_iff.1 le
  exact ⟨start, fun together => Int.lt_iff_le_and_ne.2 ⟨number together, apart⟩⟩

end Order

section Stores

variable {memory : Memory} {db : Database}

/-- Memory holds the vacations that were created. -/
theorem memory_after (calls : List Call) :
    (Act.runAll (Call.run Memory.backend) calls {}).2.vacations = created calls := by
  refine Act.runAll_reaches (fun calls (memory : Memory) =>
    memory.vacations = created calls) rfl ?_ calls
  intro earlier memory call same
  cases call with
  | upcoming today => exact same.trans (created_append_question earlier rfl).symm
  | current today => exact same.trans (created_append_question earlier rfl).symm
  | create user description startDate endDate =>
      rw [created_append_create, ← same]
      rfl

/-- Memory answers as it should for the vacations that it holds. -/
theorem tells_memory (numbered : memory.vacations.Pairwise fun a b => a.id < b.id) (call : Call) :
    ∃ answer, (call.run Memory.backend memory).1 = .ok answer ∧
      Tells memory.vacations call answer := by
  cases call with
  | create user description startDate endDate =>
      exact ⟨_, rfl, .create user description startDate endDate⟩
  | upcoming today =>
      refine ⟨_, rfl, .upcoming ?_⟩
      simpa [Vacation.isUpcomingOrCurrent] using
        lists_mergeSort numbered fun vacation => vacation.isUpcomingOrCurrent today
  | current today =>
      refine ⟨_, rfl, .current ?_⟩
      simpa [Vacation.isCurrent] using
        lists_mergeSort numbered fun vacation => vacation.isCurrent today

/-- The dates of the vacation have plain years. -/
structure Plain (vacation : Vacation) : Prop where
  startDate : vacation.startDate.HasPlainYear
  endDate : vacation.endDate.HasPlainYear

/-- The database keeps the vacations that memory holds, all of them with plain years. -/
structure Alike (memory : Memory) (db : Database) : Prop where
  keeps : Database.Keeps memory.vacations db
  plain : ∀ vacation ∈ memory.vacations, Plain vacation

/-- A query that selects the same on texts as memory does on dates is answered the same. -/
theorem Alike.select (alike : Alike memory db) {test : VacationRow → Bool}
    {test' : Vacation → Bool}
    (same : ∀ vacation ∈ memory.vacations, test (.of vacation) = test' vacation) :
    Database.selectVacations test db = ((Memory.select test' memory).1, db) := by
  have starts : ∀ vacation ∈ memory.vacations, vacation.startDate.HasPlainYear :=
    fun vacation member => (alike.plain vacation member).startDate
  rw [alike.keeps.select, Database.selected_eq starts same]
  rfl

/-- What memory and the database answer to a call is the same, and so is what they keep. -/
theorem Alike.respects (alike : Alike memory db) {call : Call}
    (plain : ∀ date ∈ call.dates, date.HasPlainYear) :
    (call.run Memory.backend memory).1 = (call.run Database.vacationBackend db).1 ∧
      Alike (call.run Memory.backend memory).2 (call.run Database.vacationBackend db).2 := by
  cases call with
  | create user description startDate endDate =>
      obtain ⟨after, inserted, keeps⟩ :=
        alike.keeps.create user description startDate endDate
      have ran : Database.vacationBackend.create user description startDate endDate db =
        (.ok _, after) := inserted
      rw [Call.run, Call.run, run_map, run_map, ran]
      refine ⟨rfl, keeps, ?_⟩
      intro vacation member
      rcases List.mem_append.1 member with old | new
      · exact alike.plain vacation old
      · rw [List.mem_singleton.1 new]
        exact ⟨plain startDate (by simp [Call.dates]), plain endDate (by simp [Call.dates])⟩
  | upcoming today =>
      have plainToday := plain today (List.mem_singleton_self today)
      have ran : Database.vacationBackend.upcoming today db =
          ((Memory.backend.upcoming today memory).1, db) := by
        apply alike.select
        intro vacation member
        exact Database.textLe_toText plainToday (alike.plain vacation member).endDate
      rw [Call.run, Call.run, run_map, run_map, ran]
      exact ⟨rfl, alike⟩
  | current today =>
      have plainToday := plain today (List.mem_singleton_self today)
      have ran : Database.vacationBackend.current today db =
          ((Memory.backend.current today memory).1, db) := by
        apply alike.select
        intro vacation member
        obtain ⟨start, finish⟩ := alike.plain vacation member
        rw [Vacation.isCurrent, ← Database.textLe_toText start plainToday,
          ← Database.textLe_toText plainToday finish]
        rfl
      rw [Call.run, Call.run, run_map, run_map, ran]
      exact ⟨rfl, alike⟩

end Stores

/-- Where all years are plain, memory and the database, both empty at first, give the same answers
to all calls, one to each, and a listing has those of the vacations created before it that it
should have. -/
theorem stores_answer_alike {calls : List Call}
    (plain : ∀ call ∈ calls, ∀ date ∈ call.dates, date.HasPlainYear) :
    let answers := (Act.runAll (Call.run Memory.backend) calls {}).1
    (Act.runAll (Call.run Database.vacationBackend) calls {}).1 = answers ∧
      answers.length = calls.length ∧
      ∀ place : Fin calls.length, ∃ answer, answers[place.val]? = some (.ok answer) ∧
        Tells (created (calls.take place)) calls[place] answer := by
  refine ⟨?_, Act.length_runAll calls _, fun place => ?_⟩
  · have start : Alike {} {} :=
      ⟨⟨rfl, rfl, rfl⟩, fun _ member => absurd member List.not_mem_nil⟩
    symm
    apply Act.runAll_alike Alike calls start
    exact fun call member memory db alike => alike.respects (plain call member)
  · have held := memory_after (calls.take place)
    obtain ⟨answer, answered, tells⟩ :=
      tells_memory (held ▸ (rising_created (calls.take place)).1) calls[place]
    refine ⟨answer, ?_, held ▸ tells⟩
    rw [Act.getElem?_runAll, answered]

/-- A day in July, the first one having the number zero. -/
def july (day : Fin 31) : Date :=
  ⟨2026, 7, day + 1, by decide, by decide, Nat.le_add_left 1 day, day.isLt⟩

/-- Three users go away, one of them from a day to an earlier one; then two lists are asked for. -/
def summer : List Call :=
  [.create "ann" "Sea" (july 9) (july 20), .create "cleo" "Desk" (july 9) (july 8),
    .create "bob" "Hills" (july 3) (july 12), .upcoming (july 8), .current (july 10)]

/-- Both stores list who is away, in the order of the first days. -/
theorem summer_answered_alike :
    (∀ call ∈ summer, ∀ date ∈ call.dates, date.HasPlainYear) ∧
      let answers := (Act.runAll (Call.run Memory.backend) summer {}).1
      (Act.runAll (Call.run Database.vacationBackend) summer {}).1 = answers ∧
        answers[3]? = some (.ok (.vacations [⟨3, "bob", "Hills", july 3, july 12⟩,
          ⟨1, "ann", "Sea", july 9, july 20⟩, ⟨2, "cleo", "Desk", july 9, july 8⟩])) ∧
        answers[4]? = some (.ok (.vacations [⟨3, "bob", "Hills", july 3, july 12⟩,
          ⟨1, "ann", "Sea", july 9, july 20⟩])) := by
  have plain : ∀ call ∈ summer, ∀ date ∈ call.dates, date.HasPlainYear := by decide
  obtain ⟨same, -, told⟩ := stores_answer_alike plain
  obtain ⟨upcoming, answered, tells⟩ := told ⟨3, by decide⟩
  obtain ⟨current, answered', tells'⟩ := told ⟨4, by decide⟩
  refine ⟨plain, same, ?_, ?_⟩
  · rw [answered, Option.some.injEq, Except.ok.injEq]
    exact tells.unique (.upcoming (.of_perm (by decide) (by decide)))
  · rw [answered', Option.some.injEq, Except.ok.injEq]
    exact tells'.unique (.current (.of_perm (by decide) (by decide)))

end ChatRobots.Vacations
