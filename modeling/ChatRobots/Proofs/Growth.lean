/-
Module: ChatRobots.Proofs.Growth
Purpose: Lists that only grow: elements may change where they stand, and new ones come last; and
  elements that change by a mark alone.
Main exports: Grows, Grows.append, Grows.mapped, Grows.trans, Grows.mem, Grows.filter,
  Grows.split, Marked, Marked.trans
-/
import Mathlib.Data.List.Forall2

namespace ChatRobots

variable {α β : Type} {R S T : α → α → Prop}

/-- The list has only grown: what was there is there in its order, each element related to what it
was, and what is new stands behind it. -/
inductive Grows (R : α → α → Prop) : List α → List α → Prop where
  | nil (new : List α) : Grows R [] new
  | cons {a b : α} {before after : List α} (related : R a b) (grows : Grows R before after) :
      Grows R (a :: before) (b :: after)

namespace Grows

variable {before between after : List α}

theorem append (refl : ∀ a, R a a) (list new : List α) : Grows R list (list ++ new) := by
  induction list with
  | nil => exact .nil new
  | cons a rest ih => exact .cons (refl a) ih

theorem refl (refl : ∀ a, R a a) (list : List α) : Grows R list list := by
  simpa using append refl list []

theorem mapped {change : α → α} (changed : ∀ a, R a (change a)) (list : List α) :
    Grows R list (list.map change) := by
  induction list with
  | nil => exact .nil []
  | cons a rest ih => exact .cons (changed a) ih

theorem trans (first : Grows R before between) (second : Grows S between after)
    (chain : ∀ a b c, R a b → S b c → T a c) : Grows T before after := by
  induction first generalizing after with
  | nil new => exact .nil after
  | cons related _ ih =>
      cases second with
      | cons later grows => exact .cons (chain _ _ _ related later) (ih grows)

theorem mem {a : α} (grows : Grows R before after) (member : a ∈ before) :
    ∃ b ∈ after, R a b := by
  induction grows with
  | nil new => exact absurd member List.not_mem_nil
  | @cons own kept _ _ related _ ih =>
      rcases List.mem_cons.1 member with rfl | rest
      · exact ⟨kept, List.mem_cons_self, related⟩
      · obtain ⟨b, later, found⟩ := ih rest
        exact ⟨b, List.mem_cons_of_mem _ later, found⟩

theorem filter (grows : Grows R before after) {p : α → Bool} (same : ∀ a b, R a b → p a = p b) :
    Grows R (before.filter p) (after.filter p) := by
  induction grows with
  | nil new => exact .nil _
  | @cons a b _ _ related _ ih =>
      rw [List.filter_cons, List.filter_cons, same a b related]
      split
      · exact .cons related ih
      · exact ih

/-- What was there, as it is now, and what is new. -/
theorem split (grows : Grows R before after) :
    ∃ kept new, after = kept ++ new ∧ List.Forall₂ R before kept := by
  induction grows with
  | nil new => exact ⟨[], new, rfl, .nil⟩
  | @cons a b _ _ related _ ih =>
      obtain ⟨kept, new, rfl, alike⟩ := ih
      exact ⟨b :: kept, new, rfl, .cons related alike⟩

/-- What grows as an image grows. -/
theorem of_map {f : β → α} {before after : List β} (grows : Grows R (before.map f) (after.map f)) :
    Grows (fun a b => R (f a) (f b)) before after := by
  induction before generalizing after with
  | nil => exact .nil after
  | cons a rest ih =>
      cases after with
      | nil => cases grows
      | cons b later =>
          cases grows with
          | cons related grows => exact .cons related (ih grows)

end Grows

/-- What becomes of an element that is as it was, or bears a mark that is permitted, whether or not
it had one before. -/
inductive Marked {μ : Type} (mark : α → μ → α) (Permits : α → μ → Prop) : α → α → Prop where
  | same (a : α) : Marked mark Permits a a
  | marked (a : α) {m : μ} (permitted : Permits a m) : Marked mark Permits a (mark a m)

namespace Marked

variable {μ : Type} {mark : α → μ → α} {Permits Permits' Both : α → μ → Prop}
  {before between after : α}

/-- What a mark leaves alone is what it was. -/
theorem field_eq (becomes : Marked mark Permits before after) {field : α → β}
    (spared : ∀ a m, field (mark a m) = field a) : field after = field before := by
  cases becomes with
  | same => rfl
  | marked => exact spared _ _

/-- What is marked stays marked. -/
theorem isSome_field (becomes : Marked mark Permits before after) {field : α → Option μ}
    (marks : ∀ a m, (field (mark a m)).isSome) (had : (field before).isSome) :
    (field after).isSome := by
  cases becomes with
  | same => exact had
  | marked => exact marks _ _

/-- A mark over a mark is one mark. -/
theorem trans (first : Marked mark Permits before between)
    (second : Marked mark Permits' between after)
    (overwrites : ∀ a m m', mark (mark a m) m' = mark a m')
    (early : ∀ a m, Permits a m → Both a m) (late : ∀ a m, Permits' a m → Both a m)
    (spared : ∀ a m m', Permits' (mark a m) m' → Permits' a m') :
    Marked mark Both before after := by
  cases second with
  | same =>
      cases first with
      | same => exact .same before
      | marked permitted => exact .marked before (early _ _ permitted)
  | marked permitted =>
      cases first with
      | same => exact .marked before (late _ _ permitted)
      | marked =>
          rw [overwrites]
          exact .marked before (late _ _ (spared _ _ _ permitted))

end Marked

end ChatRobots
