/-
Module: ChatRobots.Proofs.Database.Queries
Purpose: What a query comes to: the open pool, the order of its rows, and how they are decoded.
Main exports: mapM_eq_ok, Database.query_of_open, Database.command_of_open, Database.inOrder,
  Database.inOrder_iff, Database.sortBy_sublist
-/
import Mathlib.Data.List.Nodup
import ChatRobots.Database.Basic

namespace ChatRobots

/-!
A query selects rows, puts them in the order of a text and then of their ids, and decodes them.
The order is total, and one on rows with different ids, so sorting has one outcome however the rows
were stored.
-/

/-- Rows that can all be decoded are decoded one by one. -/
theorem mapM_eq_ok {ρ α ε : Type} {decode : ρ → Except ε α} {meaning : ρ → α} {rows : List ρ}
    (decodes : ∀ row ∈ rows, decode row = .ok (meaning row)) :
    rows.mapM decode = .ok (rows.map meaning) := by
  induction rows with
  | nil => rfl
  | cons row rows ih =>
      rw [List.mapM_cons, decodes row List.mem_cons_self,
        ih fun other member => decodes other (List.mem_cons_of_mem _ member)]
      rfl

namespace Database

/-- As long as the pool is open, a statement is what it states. -/
theorem statement_of_open {α : Type} {db : Database} (opened : db.closed = false)
    (act : Act Database α) : statement act db = act db := by
  simp [statement, opened]

theorem query_of_open {α : Type} {db : Database} (opened : db.closed = false)
    (answer : Database → Except StoreError α) : query answer db = (answer db, db) :=
  statement_of_open opened _

theorem command_of_open {α : Type} {db : Database} (opened : db.closed = false)
    (change : Database → α × Database) :
    command change db = (.ok (change db).1, (change db).2) :=
  statement_of_open opened _

section Order

variable {ρ : Type} {text : ρ → String} {idOf : ρ → Int}

/-- The row comes before the other one by its text, or has the same text and no larger id. -/
def inOrder (text : ρ → String) (idOf : ρ → Int) (a b : ρ) : Bool :=
  if text a = text b then idOf a ≤ idOf b else !decide (text b < text a)

theorem sortBy_eq (rows : List ρ) :
    sortBy text idOf rows = rows.mergeSort (inOrder text idOf) :=
  rfl

/-- The order of rows is that of their texts and, for equal texts, of their ids. -/
theorem inOrder_iff {a b : ρ} :
    inOrder text idOf a b = true ↔ text a < text b ∨ text a = text b ∧ idOf a ≤ idOf b := by
  unfold inOrder
  split
  · rename_i same
    simp only [decide_eq_true_eq, same, String.lt_irrefl, true_and, false_or]
  · rename_i apart
    simp only [Bool.not_eq_true', decide_eq_false_iff_not, apart, false_and, or_false]
    refine ⟨fun notBelow => ?_, fun below above => String.lt_irrefl _ (String.lt_trans below above)⟩
    apply String.not_le.1
    intro le
    exact apart (String.le_antisymm (String.not_lt.1 notBelow) le)

theorem inOrder_trans (a b c : ρ) (first : inOrder text idOf a b = true)
    (second : inOrder text idOf b c = true) : inOrder text idOf a c = true := by
  rw [inOrder_iff] at *
  rcases first with below | ⟨same, le⟩
  · rcases second with below' | ⟨same', _⟩
    · exact .inl (String.lt_trans below below')
    · exact .inl (same' ▸ below)
  · rcases second with below' | ⟨same', le'⟩
    · exact .inl (same ▸ below')
    · exact .inr ⟨same.trans same', Int.le_trans le le'⟩

theorem inOrder_total (a b : ρ) : (inOrder text idOf a b || inOrder text idOf b a) = true := by
  rw [Bool.or_eq_true, inOrder_iff, inOrder_iff]
  by_cases same : text a = text b
  · rcases Int.le_total (idOf a) (idOf b) with le | le
    · exact .inl (.inr ⟨same, le⟩)
    · exact .inr (.inr ⟨same.symm, le⟩)
  · by_cases below : text a < text b
    · exact .inl (.inl below)
    · refine .inr (.inl (String.not_le.1 fun le => ?_))
      exact same (String.le_antisymm le (String.not_lt.1 below))

/-- Rows in each other's order have one id. -/
theorem idOf_eq_of_inOrder {a b : ρ} (first : inOrder text idOf a b = true)
    (second : inOrder text idOf b a = true) : idOf a = idOf b := by
  rw [inOrder_iff] at first second
  rcases first with below | ⟨same, le⟩
  · rcases second with above | ⟨same, _⟩
    · exact absurd (String.lt_trans below above) (String.lt_irrefl _)
    · exact absurd (same ▸ below) (String.lt_irrefl _)
  · rcases second with above | ⟨_, le'⟩
    · exact absurd (same ▸ above) (String.lt_irrefl _)
    · exact Int.le_antisymm le le'

/-- Rows that were sorted stay in this order when others are sorted in with them. -/
theorem sortBy_sublist (text : ρ → String) {kept new : List ρ}
    (ids : ((kept ++ new).map idOf).Nodup) :
    (sortBy text idOf kept).Sublist (sortBy text idOf (kept ++ new)) := by
  simp only [sortBy_eq]
  generalize orderly : kept.mergeSort (inOrder text idOf) = sorted
  have permuted : (sorted ++ new).Perm (kept ++ new) :=
    (orderly ▸ List.mergeSort_perm kept _).append_right new
  have pairwise : sorted.Pairwise fun a b => inOrder text idOf a b = true :=
    orderly ▸ List.pairwise_mergeSort inOrder_trans inOrder_total kept
  -- Sorting what is partly sorted already comes to the same: the order is one on these rows.
  have same : (sorted ++ new).mergeSort (inOrder text idOf) =
      (kept ++ new).mergeSort (inOrder text idOf) := by
    refine List.Perm.eq_of_pairwise ?_ (List.pairwise_mergeSort inOrder_trans inOrder_total _)
      (List.pairwise_mergeSort inOrder_trans inOrder_total _)
      ((List.mergeSort_perm _ _).trans (permuted.trans (List.mergeSort_perm _ _).symm))
    intro a b first second le ge
    have firstIn := permuted.mem_iff.1 (List.mem_mergeSort.1 first)
    exact List.inj_on_of_nodup_map ids firstIn (List.mem_mergeSort.1 second)
      (idOf_eq_of_inOrder le ge)
  rw [← same]
  exact List.sublist_mergeSort inOrder_trans inOrder_total pairwise
    (List.sublist_append_left sorted new)

end Order

end Database

end ChatRobots
