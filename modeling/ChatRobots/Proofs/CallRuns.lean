/-
Module: ChatRobots.Proofs.CallRuns
Purpose: Calls of a store made one after another, and what is true after each of them.
Main exports: Act.runAll_append, Act.take_runAll, Act.getElem?_runAll, Act.runAll_reaches,
  Act.runAll_alike
-/
import ChatRobots.Proofs.Action

namespace ChatRobots

/-!
A history of a store is a list of calls, made one after another from its first state.  What is
answered at a place is what the call there answers after the calls before it, so a history is
understood from two things: what each call answers in a state, and what the state has become by
then.  The second one is an invariant that speaks of the state and of the calls made so far.
-/

namespace Act

variable {κ σ τ α : Type} {run : κ → Act σ α} {run' : κ → Act τ α}

theorem runAll_cons (call : κ) (rest : List κ) (start : σ) :
    runAll run (call :: rest) start =
      ((run call start).1 :: (runAll run rest (run call start).2).1,
        (runAll run rest (run call start).2).2) :=
  rfl

theorem length_runAll (calls : List κ) (start : σ) :
    (runAll run calls start).1.length = calls.length := by
  induction calls generalizing start with
  | nil => rfl
  | cons call rest ih => exact congrArg (· + 1) (ih _)

theorem runAll_append (earlier later : List κ) (start : σ) :
    runAll run (earlier ++ later) start =
      ((runAll run earlier start).1 ++ (runAll run later (runAll run earlier start).2).1,
        (runAll run later (runAll run earlier start).2).2) := by
  induction earlier generalizing start with
  | nil => rfl
  | cons call rest ih =>
      rw [List.cons_append, runAll_cons, runAll_cons, ih, List.cons_append]

/-- The first calls of a run are answered as they are alone. -/
theorem take_runAll (count : Nat) (calls : List κ) (start : σ) :
    (runAll run calls start).1.take count = (runAll run (calls.take count) start).1 := by
  induction calls generalizing count start with
  | nil => simp [runAll]
  | cons call rest ih =>
      cases count with
      | zero => rfl
      | succ count =>
          rw [List.take_succ_cons, runAll_cons, runAll_cons, List.take_succ_cons, ih]

theorem getElem?_runAll_append (run : κ → Act σ α) (earlier later : List κ) (call : κ)
    (start : σ) :
    (runAll run (earlier ++ call :: later) start).1[earlier.length]? =
      some (run call (runAll run earlier start).2).1 := by
  rw [runAll_append, List.getElem?_append_right (Nat.le_of_eq (length_runAll earlier start)),
    length_runAll, Nat.sub_self]
  rfl

/-- A call answers what it answers after the calls before it. -/
theorem getElem?_runAll (calls : List κ) (place : Fin calls.length) (start : σ) :
    (runAll run calls start).1[place.val]? =
      some (run calls[place] (runAll run (calls.take place) start).2).1 := by
  have split : calls.take place ++ calls[place] :: calls.drop (place + 1) = calls := by
    rw [Fin.getElem_fin, ← List.drop_eq_getElem_cons place.isLt, List.take_append_drop]
  have there := getElem?_runAll_append run (calls.take place) (calls.drop (place + 1))
    calls[place] start
  rwa [split, List.length_take_of_le (Nat.le_of_lt place.isLt)] at there

/-- What every call keeps true of the calls made so far and of the state is true after a run. -/
theorem runAll_reaches (Holds : List κ → σ → Prop) {start : σ} (begins : Holds [] start)
    (keeps : ∀ earlier state call, Holds earlier state →
      Holds (earlier ++ [call]) (run call state).2)
    (calls : List κ) : Holds calls (runAll run calls start).2 := by
  suffices later : ∀ earlier state, Holds earlier state →
      Holds (earlier ++ calls) (runAll run calls state).2 from later [] start begins
  induction calls with
  | nil =>
      intro earlier state holds
      rw [List.append_nil]
      exact holds
  | cons call rest ih =>
      intro earlier state holds
      rw [List.append_cons]
      exact ih _ _ (keeps earlier state call holds)

/-- Two stores answer alike that stand in a relation which every call of the run respects. -/
theorem runAll_alike (Related : σ → τ → Prop) {start : σ} {start' : τ} (calls : List κ)
    (begins : Related start start')
    (respects : ∀ call ∈ calls, ∀ state state', Related state state' →
      (run call state).1 = (run' call state').1 ∧
        Related (run call state).2 (run' call state').2) :
    (runAll run calls start).1 = (runAll run' calls start').1 := by
  induction calls generalizing start start' with
  | nil => rfl
  | cons call rest ih =>
      obtain ⟨same, related⟩ := respects call List.mem_cons_self start start' begins
      have later := ih related fun call member => respects call (List.mem_cons_of_mem _ member)
      exact List.cons_eq_cons.2 ⟨same, later⟩

end Act

end ChatRobots
