/-
Module: ChatRobots.Proofs.Action
Purpose: Running actions that read and change a state and can fail, one step at a time.
Main exports: run_bind_of_ok, run_bind_of_error, run_bind_eq_ok, run_bind_eq_error,
  run_bind_state, run_bind_pure, run_map, run_map_of_ok, Moves, Moves.bind, Moves.map, Clean,
  bind_eq_ok, Act.run_within, Act.ask_within
-/
import ChatRobots.StoreError

namespace ChatRobots

variable {ε σ α β : Type} {before after : σ}

/-- After a first step that answers, the rest goes on from the state the step left. -/
theorem run_bind_of_ok {act : ExceptT ε (StateM σ) α} {next : α → ExceptT ε (StateM σ) β} {a : α}
    (ok : act before = (.ok a, after)) : (act >>= next) before = next a after := by
  show (match act before with
    | (result, state) => ExceptT.bindCont next result state) = next a after
  rw [ok]
  rfl

/-- A first step that fails is the end, with the state the step left. -/
theorem run_bind_of_error {act : ExceptT ε (StateM σ) α} {next : α → ExceptT ε (StateM σ) β}
    {error : ε} (failed : act before = (.error error, after)) :
    (act >>= next) before = (.error error, after) := by
  show (match act before with
    | (result, state) => ExceptT.bindCont next result state) = (.error error, after)
  rw [failed]
  rfl

/-- What has answered in the end has answered at its first step. -/
theorem run_bind_eq_ok {act : ExceptT ε (StateM σ) α} {next : α → ExceptT ε (StateM σ) β} {b : β}
    (done : (act >>= next) before = (.ok b, after)) :
    ∃ a between, act before = (.ok a, between) ∧ next a between = (.ok b, after) := by
  generalize first : act before = step at *
  obtain ⟨result, between⟩ := step
  cases result with
  | ok a =>
      rw [run_bind_of_ok first] at done
      exact ⟨a, between, rfl, done⟩
  | error error =>
      rw [run_bind_of_error first] at done
      cases done

/-- What has failed in the end has failed at its first step or after it. -/
theorem run_bind_eq_error {act : ExceptT ε (StateM σ) α} {next : α → ExceptT ε (StateM σ) β}
    {error : ε} (failed : (act >>= next) before = (.error error, after)) :
    act before = (.error error, after) ∨
      ∃ a between, act before = (.ok a, between) ∧ next a between = (.error error, after) := by
  generalize first : act before = step at *
  obtain ⟨result, between⟩ := step
  cases result with
  | ok a =>
      rw [run_bind_of_ok first] at failed
      exact .inr ⟨a, between, rfl, failed⟩
  | error cause =>
      rw [run_bind_of_error first] at failed
      cases failed
      exact .inl rfl

/-- After a step that cannot fail, the rest goes on from the state the step left. -/
theorem run_bind_state {act : StateM σ α} {next : α → StateM σ β} {a : α}
    (done : act before = (a, after)) : (act >>= next) before = next a after := by
  show next (act before).1 (act before).2 = next a after
  rw [done]

/-- After a step whose answer is dropped, the state is the one it left. -/
theorem run_bind_pure (act : StateM σ α) (b : β) (before : σ) :
    (act >>= fun _ => pure b) before = (b, (act before).2) :=
  rfl

/-- To use an answer is to run the action and to use what it answered. -/
theorem run_map (use : α → β) (act : ExceptT ε (StateM σ) α) (before : σ) :
    (use <$> act) before = ((act before).1.map use, (act before).2) := by
  show (match (act before).1 with
    | .ok a => (pure (.ok (use a)) : StateM σ (Except ε β))
    | .error error => pure (.error error)) (act before).2 = _
  cases (act before).1 <;> rfl

theorem run_map_of_ok {act : ExceptT ε (StateM σ) α} {a : α} (ok : act before = (.ok a, after))
    (use : α → β) : (use <$> act) before = (.ok (use a), after) := by
  rw [run_map, ok]
  rfl

/-- Whatever comes of the action, the state after it stands in this relation to the state before. -/
def Moves (R : σ → σ → Prop) (act : ExceptT ε (StateM σ) α) : Prop :=
  ∀ before, R before (act before).2

section Moves

variable {R : σ → σ → Prop}

theorem moves_pure (refl : ∀ state, R state state) (a : α) :
    Moves R (pure a : ExceptT ε (StateM σ) α) :=
  fun state => refl state

theorem moves_throw (refl : ∀ state, R state state) (error : ε) :
    Moves R (throw error : ExceptT ε (StateM σ) α) :=
  fun state => refl state

/-- Two steps, the second of which may not be reached. -/
theorem Moves.bind {act : ExceptT ε (StateM σ) α} {next : α → ExceptT ε (StateM σ) β}
    (moves : Moves R act)
    (trans : ∀ ⦃first second third⦄, R first second → R second third → R first third)
    (rest : ∀ a, Moves R (next a)) : Moves R (act >>= next) := by
  intro before
  have moved := moves before
  generalize first : act before = step at moved
  obtain ⟨result, between⟩ := step
  cases result with
  | ok a =>
      rw [run_bind_of_ok first]
      exact trans moved (rest a between)
  | error error =>
      rw [run_bind_of_error first]
      exact moved

/-- What is made of the answer does not matter for the state. -/
theorem Moves.map {act : ExceptT ε (StateM σ) α} (moves : Moves R act) (use : α → β) :
    Moves R (use <$> act) := by
  intro before
  rw [run_map]
  exact moves before

end Moves

/-- Where the action fails, the state is as it was. -/
def Clean (act : ExceptT ε (StateM σ) α) : Prop :=
  ∀ ⦃before error after⦄, act before = (.error error, after) → after = before

section Clean

theorem clean_pure (a : α) : Clean (pure a : ExceptT ε (StateM σ) α) := by
  rintro before error after ⟨⟩

/-- What never changes the state does not change it by failing. -/
theorem clean_of_moves {act : ExceptT ε (StateM σ) α}
    (still : Moves (fun before after => after = before) act) : Clean act := by
  intro before error after failed
  exact (congrArg Prod.snd failed).symm.trans (still before)

/-- After a step that changes nothing, a clean rest. -/
theorem Clean.bind_of_moves {act : ExceptT ε (StateM σ) α} {next : α → ExceptT ε (StateM σ) β}
    (still : Moves (fun before after => after = before) act) (rest : ∀ a, Clean (next a)) :
    Clean (act >>= next) := by
  intro before error after failed
  rcases run_bind_eq_error failed with first | ⟨a, between, first, later⟩
  · exact clean_of_moves still first
  · have same : between = before := (congrArg Prod.snd first).symm.trans (still before)
    exact (rest a later).trans same

/-- After a clean step, a rest that cannot fail. -/
theorem Clean.bind_pure {act : ExceptT ε (StateM σ) α} (clean : Clean act) (use : α → β) :
    Clean (do
      let a ← act
      pure (use a)) := by
  intro before error after failed
  rcases run_bind_eq_error failed with first | ⟨a, between, -, later⟩
  · exact clean first
  · cases later

theorem Clean.map {act : ExceptT ε (StateM σ) α} (clean : Clean act) (use : α → β) :
    Clean (use <$> act) := by
  intro before error after failed
  rw [run_map] at failed
  generalize ran : act before = step at failed
  obtain ⟨result, between⟩ := step
  cases result with
  | ok a => cases failed
  | error cause =>
      cases failed
      exact clean ran

end Clean

/-- What has come out of two steps has come out of the first one. -/
theorem bind_eq_ok {first : Except ε α} {next : α → Except ε β} {b : β}
    (done : (first >>= next) = .ok b) : ∃ a, first = .ok a ∧ next a = .ok b := by
  cases first with
  | error error => cases done
  | ok a => exact ⟨a, rfl, done⟩

namespace Act

variable {τ : Type} {get : τ → σ} {set : σ → τ → τ} {act : Act σ α} {whole : τ}
  {answer : Except StoreError α}

/-- A call on a part of a larger state answers what it answers on the part. -/
theorem run_within {part : σ} (ran : act (get whole) = (answer, part)) :
    act.within get set whole = (answer, set part whole) := by
  rw [within, ran]

/-- A question that leaves the part as it is leaves the whole as it is. -/
theorem ask_within (set_get : ∀ whole, set (get whole) whole = whole)
    (asked : act (get whole) = (answer, get whole)) :
    act.within get set whole = (answer, whole) := by
  rw [run_within asked, set_get]

end Act

end ChatRobots
