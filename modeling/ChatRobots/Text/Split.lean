/-
Module: ChatRobots.Text.Split
Purpose: Cutting a text at a separator, and putting the parts together again.
Main exports: cut?, cutAtMark?, pieces, words, join, afterLead?
-/

namespace ChatRobots.Text

/-!
`pieces c` cuts at every `c`, so a text with `n` separators has `n + 1` pieces, empty ones
included; `words` are the pieces that hold something.  `cut?` cuts once, at the first separator,
and leaves the later ones in the second half.  `join` is the other direction of `pieces`.
-/

/-- What stands before and after the first `c`; nothing when there is no `c`. -/
def cut? (c : Char) : List Char → Option (List Char × List Char)
  | [] => none
  | x :: rest =>
      if x = c then some ([], rest)
      else (cut? c rest).map fun (before, after) => (x :: before, after)

/-- The parts of the text between one `c` and the next. -/
def pieces (c : Char) : List Char → List (List Char)
  | [] => [[]]
  | x :: rest =>
      if x = c then [] :: pieces c rest
      else match pieces c rest with
        | [] => [[x]]
        | first :: others => (x :: first) :: others

/-- The pieces that are not empty. -/
def words (c : Char) (text : List Char) : List (List Char) :=
  (pieces c text).filter fun piece => !piece.isEmpty

/-- The parts one after another with a `c` between neighbours. -/
def join (c : Char) (parts : List (List Char)) : List Char :=
  [c].intercalate parts

/-- The rest of a text that begins with `lead`. -/
def afterLead? : List Char → List Char → Option (List Char)
  | [], text => some text
  | _ :: _, [] => none
  | l :: lead, x :: text => if l = x then afterLead? lead text else none

/-- What stands before and after the first place where the mark stands. -/
def cutAtMark? (mark : List Char) : List Char → Option (List Char × List Char)
  | [] => if mark.isEmpty then some ([], []) else none
  | x :: rest =>
      match afterLead? mark (x :: rest) with
      | some after => some ([], after)
      | none => (cutAtMark? mark rest).map fun (before, after) => (x :: before, after)

/-- The text without its leading `c`s. -/
def dropLeading (c : Char) (text : List Char) : List Char :=
  text.dropWhile (· == c)

/-- A text that begins with `lead` is `lead` and the rest. -/
theorem eq_append_of_afterLead? {lead text rest : List Char}
    (h : afterLead? lead text = some rest) : text = lead ++ rest := by
  induction lead generalizing text with
  | nil => simp_all [afterLead?]
  | cons l lead ih =>
    cases text with
    | nil => simp [afterLead?] at h
    | cons x text =>
      simp only [afterLead?] at h
      split at h
      · rename_i hlx
        simp [hlx, ih h]
      · simp at h

/-- The text without `lead`, taken off as often as it stands at the front. -/
def dropRepeated (lead text : List Char) : List Char :=
  if _nonempty : lead = [] then text
  else match _found : afterLead? lead text with
    | none => text
    | some rest => dropRepeated lead rest
termination_by text.length
decreasing_by
  have := List.length_pos_iff.mpr _nonempty
  rw [eq_append_of_afterLead? _found, List.length_append]
  omega

@[simp] theorem pieces_nil (c : Char) : pieces c [] = [[]] := rfl

theorem pieces_ne_nil (c : Char) (text : List Char) : pieces c text ≠ [] := by
  cases text with
  | nil => simp
  | cons x rest =>
    simp only [pieces]
    split
    · simp
    · split <;> simp

theorem pieces_cons_same (c : Char) (rest : List Char) :
    pieces c (c :: rest) = [] :: pieces c rest := by
  simp [pieces]

/-- A text without the separator is its own only piece. -/
theorem pieces_eq_self {c : Char} {text : List Char} (h : c ∉ text) : pieces c text = [text] := by
  induction text with
  | nil => rfl
  | cons x rest ih =>
    have hx : x ≠ c := fun e => h (by simp [e])
    have hr : c ∉ rest := fun m => h (List.mem_cons_of_mem _ m)
    simp [pieces, hx, ih hr]

/-- No piece holds the separator. -/
theorem not_mem_of_mem_pieces {c : Char} {text piece : List Char} (h : piece ∈ pieces c text) :
    c ∉ piece := by
  induction text generalizing piece with
  | nil => simp_all
  | cons x rest ih =>
    simp only [pieces] at h
    split at h
    · rcases List.mem_cons.1 h with rfl | h
      · simp
      · exact ih h
    · rename_i hx
      cases hp : pieces c rest with
      | nil => exact absurd hp (pieces_ne_nil c rest)
      | cons first others =>
        rw [hp] at h ih
        rcases List.mem_cons.1 h with rfl | h
        · intro hm
          rcases List.mem_cons.1 hm with rfl | hm
          · exact hx rfl
          · exact ih List.mem_cons_self hm
        · exact ih (List.mem_cons_of_mem _ h)

/-- Cutting finds the first separator: none stands in the first half. -/
theorem cut?_eq_some {c : Char} {text before after : List Char}
    (h : cut? c text = some (before, after)) : text = before ++ c :: after ∧ c ∉ before := by
  induction text generalizing before with
  | nil => simp [cut?] at h
  | cons x rest ih =>
    simp only [cut?] at h
    split at h
    · rename_i hx
      simp only [Option.some.injEq, Prod.mk.injEq] at h
      obtain ⟨rfl, rfl⟩ := h
      simp [hx]
    · rename_i hx
      simp only [Option.map_eq_some_iff, Prod.mk.injEq] at h
      obtain ⟨⟨b, a⟩, hcut, rfl, rfl⟩ := h
      obtain ⟨rfl, hb⟩ := ih hcut
      refine ⟨rfl, ?_⟩
      intro hm
      rcases List.mem_cons.1 hm with rfl | hm
      · exact hx rfl
      · exact hb hm

end ChatRobots.Text
