/-
Module: ChatRobots.Proofs.Text.Beginnings
Purpose: Texts told apart by the words that they begin with.
Main exports: Begins, Begins.not_begins, Begins.ne
-/
import Mathlib.Data.List.Infix

namespace ChatRobots

/-!
Two texts are different when the words they begin with are, however the texts go on.
-/

/-- The text begins with these words. -/
def Begins (lead text : String) : Prop :=
  lead.toList <+: text.toList

instance (lead text : String) : Decidable (Begins lead text) :=
  inferInstanceAs (Decidable (lead.toList <+: text.toList))

section Begins

variable {lead other text : String}

theorem begins_refl (lead : String) : Begins lead lead :=
  List.prefix_rfl

theorem Begins.append (begins : Begins lead text) (more : String) : Begins lead (text ++ more) := by
  rw [Begins, String.toList_append]
  exact List.IsPrefix.trans begins (List.prefix_append _ _)

theorem Begins.intercalate (begins : Begins lead text) (separator : String) (rest : List String) :
    Begins lead (separator.intercalate (text :: rest)) := by
  cases rest with
  | nil => simpa using begins
  | cons next rest =>
      rw [String.intercalate_cons_cons]
      exact (begins.append separator).append _

/-- Of two texts that one text begins with, one begins with the other. -/
theorem Begins.comparable (begins : Begins lead text) (begins' : Begins other text) :
    Begins lead other ∨ Begins other lead :=
  List.prefix_or_prefix_of_prefix begins begins'

/-- A text that begins with some words does not begin with others that are told apart from them. -/
theorem Begins.not_begins (begins : Begins lead text)
    (apart : ¬ Begins lead other ∧ ¬ Begins other lead) : ¬ Begins other text := by
  intro begins'
  rcases begins.comparable begins' with short | long
  · exact apart.1 short
  · exact apart.2 long

theorem Begins.ne {text' : String} (begins : Begins lead text) (begins' : Begins other text')
    (apart : ¬ Begins lead other ∧ ¬ Begins other lead) : text ≠ text' := by
  rintro rfl
  exact begins.not_begins apart begins'

end Begins

end ChatRobots
