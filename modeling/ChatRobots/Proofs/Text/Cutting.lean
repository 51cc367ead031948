/-
Module: ChatRobots.Proofs.Text.Cutting
Purpose: Cutting and trimming a text at a character that stands in it.
Main exports: trimEnd_append_cons, trimStart_append_cons, cut?_append_cons, cut?_of_notMem,
  cut?_eq_none_iff, pieces_append_separator, pieces_append_cons, join_cons_cons, pieces_join,
  afterLead?_append, afterLead?_eq_some_iff, isSome_afterLead?_iff
-/
import ChatRobots.Text.Blank
import ChatRobots.Text.Split

namespace ChatRobots.Text

/-- Blanks at the end stand behind every character that is none. -/
theorem trimEnd_append_cons {c : Char} (solid : isBlank c = false) (before after : List Char) :
    trimEnd (before ++ c :: after) = before ++ c :: trimEnd after := by
  have stops : (c :: before.reverse).dropWhile isBlank = c :: before.reverse := by
    rw [List.dropWhile_cons, solid, if_neg Bool.false_ne_true]
  have backwards : (before ++ c :: after).reverse = after.reverse ++ c :: before.reverse := by
    simp
  have kept : (after.reverse ++ c :: before.reverse).dropWhile isBlank =
      after.reverse.dropWhile isBlank ++ c :: before.reverse := by
    rw [List.dropWhile_append, stops]
    split
    · rename_i empty
      rw [List.isEmpty_iff.1 empty, List.nil_append]
    · rfl
  rw [trimEnd, backwards, kept, trimEnd, List.reverse_append, List.reverse_cons,
    List.reverse_reverse, List.append_assoc, List.singleton_append]

/-- Blanks at the beginning stand before every character that is none. -/
theorem trimStart_append_cons {c : Char} (solid : isBlank c = false) (before after : List Char) :
    trimStart (before ++ c :: after) = trimStart before ++ c :: after := by
  have stops : (c :: after).dropWhile isBlank = c :: after := by
    rw [List.dropWhile_cons, solid, if_neg Bool.false_ne_true]
  rw [trimStart, List.dropWhile_append, stops, trimStart]
  split
  · rename_i empty
    rw [List.isEmpty_iff.1 empty, List.nil_append]
  · rfl

/-- What stands before the first separator does not depend on what follows a later one. -/
theorem cut?_append_cons (c : Char) (before after : List Char) :
    ∃ rest, cut? c (before ++ c :: after) = some (before.takeWhile (· != c), rest) := by
  induction before with
  | nil => exact ⟨after, by simp [cut?]⟩
  | cons x before ih =>
      obtain ⟨rest, found⟩ := ih
      rw [List.cons_append, cut?]
      split
      · rename_i same
        exact ⟨before ++ c :: after, by rw [same, List.takeWhile_cons]; simp⟩
      · rename_i differs
        refine ⟨rest, ?_⟩
        rw [found, List.takeWhile_cons, if_pos (by simpa using differs)]
        rfl

/-- A separator is found where it was put in, if none stands before. -/
theorem cut?_of_notMem {c : Char} {before : List Char} (absent : c ∉ before) (after : List Char) :
    cut? c (before ++ c :: after) = some (before, after) := by
  induction before with
  | nil => simp [cut?]
  | cons x before ih =>
      rw [List.mem_cons, not_or] at absent
      rw [List.cons_append, cut?, if_neg (Ne.symm absent.1), ih absent.2]
      rfl

/-- Nothing is cut exactly where there is no separator. -/
theorem cut?_eq_none_iff {c : Char} {text : List Char} : cut? c text = none ↔ c ∉ text := by
  constructor
  · intro uncut member
    obtain ⟨before, after, rfl⟩ := List.append_of_mem member
    obtain ⟨rest, found⟩ := cut?_append_cons c before after
    rw [uncut] at found
    cases found
  · intro absent
    cases found : cut? c text with
    | none => rfl
    | some cut =>
        obtain ⟨rfl, -⟩ := cut?_eq_some found
        exact absurd (List.mem_append_right _ List.mem_cons_self) absent

/-- At a separator a text falls into the pieces before it and the pieces after it. -/
theorem pieces_append_separator (c : Char) (before after : List Char) :
    pieces c (before ++ c :: after) = pieces c before ++ pieces c after := by
  induction before with
  | nil => exact pieces_cons_same c after
  | cons x before ih =>
      rw [List.cons_append, pieces, pieces, ih]
      split
      · rfl
      · cases cut : pieces c before with
        | nil => exact absurd cut (pieces_ne_nil c before)
        | cons first others => rfl

/-- The first piece ends at the first separator. -/
theorem pieces_append_cons {c : Char} {part : List Char} (absent : c ∉ part) (rest : List Char) :
    pieces c (part ++ c :: rest) = part :: pieces c rest := by
  rw [pieces_append_separator, pieces_eq_self absent, List.singleton_append]

theorem join_singleton (c : Char) (part : List Char) : join c [part] = part := by
  simp [join, List.intercalate]

theorem join_cons_cons (c : Char) (part next : List Char) (parts : List (List Char)) :
    join c (part :: next :: parts) = part ++ c :: join c (next :: parts) := by
  simp [join, List.intercalate]

/-- Cutting at every separator undoes joining, as long as no part has the separator in it. -/
theorem pieces_join {c : Char} {parts : List (List Char)} (some_part : parts ≠ [])
    (free : ∀ part ∈ parts, c ∉ part) : pieces c (join c parts) = parts := by
  induction parts with
  | nil => exact absurd rfl some_part
  | cons part parts ih =>
      have absent : c ∉ part := free part List.mem_cons_self
      cases parts with
      | nil => rw [join_singleton, pieces_eq_self absent]
      | cons next parts =>
          rw [join_cons_cons, pieces_append_cons absent,
            ih (List.cons_ne_nil _ _) fun p member => free p (List.mem_cons_of_mem _ member)]

/-- What follows the lead is what was put behind it. -/
theorem afterLead?_append (lead rest : List Char) : afterLead? lead (lead ++ rest) = some rest := by
  induction lead with
  | nil => cases rest <;> rfl
  | cons c lead ih => rw [List.cons_append, afterLead?, if_pos rfl, ih]

/-- What follows the lead in a text is what makes the text together with the lead. -/
theorem afterLead?_eq_some_iff {lead text : String} {rest : List Char} :
    afterLead? lead.toList text.toList = some rest ↔ text = lead ++ String.ofList rest := by
  rw [← String.toList_inj, String.toList_append, String.toList_ofList]
  constructor
  · exact eq_append_of_afterLead?
  · intro same
    rw [same, afterLead?_append]

/-- Something follows the lead when the text begins with it. -/
theorem isSome_afterLead?_iff {lead text : List Char} :
    (afterLead? lead text).isSome ↔ lead <+: text := by
  rw [Option.isSome_iff_exists]
  constructor
  · rintro ⟨rest, after⟩
    exact ⟨rest, (eq_append_of_afterLead? after).symm⟩
  · rintro ⟨rest, rfl⟩
    exact ⟨rest, afterLead?_append lead rest⟩

end ChatRobots.Text
