/-
Module: ChatRobots.Proofs.Text.Trimming
Purpose: What trimming takes off a text, and what it leaves alone.
Main exports: trimmed_trim, trim_trim, Blank, trim_padded, trim_eq_nil_iff, trim_word_append,
  cut?_word_append, Padded
-/
import Mathlib.Data.List.DropRight
import ChatRobots.Proofs.Text.Cutting

namespace ChatRobots.Text

/-!
What is trimmed off a text are blanks at its ends.  So a text can be padded with blanks and trims
to the same, and the two ends can be trimmed in either order.
-/

/-- Trimming the end of a text keeps its beginning. -/
theorem isPrefix_trimEnd (text : List Char) : trimEnd text <+: text := by
  have suffix : text.reverse.dropWhile isBlank <:+ text.reverse := List.dropWhile_suffix _
  simpa [trimEnd] using List.reverse_prefix.2 suffix

/-- A trimmed text has no blank at its ends. -/
theorem trimmed_trim (text : List Char) : Trimmed (trim text) := by
  constructor
  · intro c head
    apply head?_trimStart text c
    obtain ⟨rest, whole⟩ := isPrefix_trimEnd (trimStart text)
    rw [← whole]
    cases kept : trim text with
    | nil => simp [kept] at head
    | cons d tail =>
        have lead : trimEnd (trimStart text) = d :: tail := kept
        simpa [lead, kept] using head
  · intro c last
    exact getLast?_trimEnd _ c last

theorem trim_trim (text : List Char) : trim (trim text) = trim text :=
  trim_eq_self (trimmed_trim text)

/-- What is left of a text was in it before. -/
theorem mem_of_mem_trim {c : Char} {text : List Char} (member : c ∈ trim text) : c ∈ text :=
  (List.dropWhile_sublist _).subset ((isPrefix_trimEnd _).subset member)

@[simp] theorem trimEnd_trimEnd (text : List Char) : trimEnd (trimEnd text) = trimEnd text :=
  trimEnd_eq_self (getLast?_trimEnd text)

@[simp] theorem trimStart_trimStart (text : List Char) :
    trimStart (trimStart text) = trimStart text :=
  trimStart_eq_self (head?_trimStart text)

/-- The text consists of blanks. -/
def Blank (text : List Char) : Prop :=
  ∀ c ∈ text, isBlank c = true

instance (text : List Char) : Decidable (Blank text) :=
  List.decidableBAll (isBlank · = true) text

theorem blank_nil : Blank [] := by
  simp [Blank]

/-- A text is blank, or some character of it is not. -/
theorem blank_or_solid (text : List Char) :
    Blank text ∨ ∃ before c after, text = before ++ c :: after ∧ isBlank c = false := by
  by_cases blank : Blank text
  · exact .inl blank
  · simp only [Blank, not_forall, Bool.not_eq_true] at blank
    obtain ⟨c, member, solid⟩ := blank
    obtain ⟨before, after, rfl⟩ := List.append_of_mem member
    exact .inr ⟨before, c, after, rfl, solid⟩

theorem trimStart_eq_nil_iff {text : List Char} : trimStart text = [] ↔ Blank text :=
  List.dropWhile_eq_nil_iff

theorem trimEnd_eq_nil_iff {text : List Char} : trimEnd text = [] ↔ Blank text :=
  List.rdropWhile_eq_nil_iff

/-- The two ends can be trimmed in either order. -/
theorem trimEnd_trimStart (text : List Char) :
    trimEnd (trimStart text) = trimStart (trimEnd text) := by
  rcases blank_or_solid text with blank | ⟨before, c, after, rfl, solid⟩
  · rw [trimStart_eq_nil_iff.2 blank, trimEnd_eq_nil_iff.2 blank]
    rfl
  · rw [trimStart_append_cons solid, trimEnd_append_cons solid, trimEnd_append_cons solid,
      trimStart_append_cons solid]

@[simp] theorem trim_trimEnd (text : List Char) : trim (trimEnd text) = trim text := by
  rw [trim, ← trimEnd_trimStart, trimEnd_trimEnd, trim]

@[simp] theorem trim_trimStart (text : List Char) : trim (trimStart text) = trim text := by
  rw [trim, trimStart_trimStart, trim]

theorem trimStart_blank_append {before : List Char} (blank : Blank before) (text : List Char) :
    trimStart (before ++ text) = trimStart text :=
  List.dropWhile_append_of_pos blank

theorem trimEnd_append_blank {after : List Char} (blank : Blank after) (text : List Char) :
    trimEnd (text ++ after) = trimEnd text := by
  rw [trimEnd, List.reverse_append, List.dropWhile_append_of_pos, trimEnd]
  simpa [Blank] using blank

/-- Blanks around a text do not count. -/
theorem trim_padded {before after : List Char} (blank : Blank before) (blank' : Blank after)
    (text : List Char) : trim (before ++ text ++ after) = trim text := by
  rw [List.append_assoc, trim, trimStart_blank_append blank, trimEnd_trimStart,
    trimEnd_append_blank blank', ← trimEnd_trimStart, trim]

theorem trim_eq_nil_iff {text : List Char} : trim text = [] ↔ Blank text := by
  rw [trim, trimEnd_eq_nil_iff]
  constructor
  · intro blank
    rw [← trimStart_eq_nil_iff, ← trimStart_trimStart, trimStart_eq_nil_iff]
    exact blank
  · intro blank
    rw [trimStart_eq_nil_iff.2 blank]
    exact blank_nil

/-- A text in which nothing is blank. -/
def Solid (text : List Char) : Prop :=
  ∀ c ∈ text, isBlank c = false

instance (text : List Char) : Decidable (Solid text) :=
  List.decidableBAll (isBlank · = false) text

/-- A text without blanks has none at its ends. -/
theorem Solid.trimmed {text : List Char} (solid : Solid text) : Trimmed text :=
  ⟨fun c head => solid c (List.mem_of_mem_head? head),
    fun c last => solid c (List.mem_of_mem_getLast? last)⟩

/-- A text without blanks has no space in it. -/
theorem Solid.space_not_mem {text : List Char} (solid : Solid text) : ' ' ∉ text := by
  intro member
  have blank := solid ' ' member
  revert blank
  decide

/-- A word keeps what follows it from the blanks before. -/
theorem trimEnd_word_append {word : List Char} (filled : word ≠ []) (trimmed : Trimmed word)
    (rest : List Char) : trimEnd (word ++ rest) = word ++ trimEnd rest := by
  obtain ⟨before, c, rfl⟩ := word.eq_nil_or_concat.resolve_left filled
  have solid : isBlank c = false := trimmed.2 c (by simp)
  simpa using trimEnd_append_cons solid before rest

theorem trim_word_append {word : List Char} (filled : word ≠ []) (trimmed : Trimmed word)
    (rest : List Char) : trim (word ++ rest) = word ++ trimEnd rest := by
  have start : trimStart (word ++ rest) = word ++ rest := by
    apply trimStart_eq_self
    rw [List.head?_append_of_ne_nil _ filled]
    exact trimmed.1
  rw [trim, start, trimEnd_word_append filled trimmed]

/-- A blank stays where something follows it. -/
theorem trimEnd_blank_cons {c : Char} (blank : isBlank c = true) (text : List Char) :
    trimEnd (c :: text) = if Blank text then [] else c :: trimEnd text := by
  split
  · rename_i rest
    refine trimEnd_eq_nil_iff.2 fun d member => ?_
    rcases List.mem_cons.1 member with rfl | inRest
    · exact blank
    · exact rest d inRest
  · rename_i filled
    obtain ⟨before, d, after, rfl, solid⟩ := (blank_or_solid text).resolve_left filled
    rw [← List.cons_append, trimEnd_append_cons solid, trimEnd_append_cons solid,
      List.cons_append]

theorem trimEnd_space_cons {text : List Char} (blank : Blank text) :
    trimEnd (' ' :: text) = [] := by
  rw [trimEnd_blank_cons (by decide), if_pos blank]

/-- Behind a word a text is cut off at the space, if there is any text. -/
theorem cut?_word_append {word : List Char} (whole : ' ' ∉ word) (text : List Char) :
    cut? ' ' (word ++ trimEnd (' ' :: text)) =
      if Blank text then none else some (word, trimEnd text) := by
  rw [trimEnd_blank_cons (by decide)]
  split
  · rw [List.append_nil, cut?_eq_none_iff.2 whole]
  · exact cut?_of_notMem whole _

/-- The text with nothing but blanks around it. -/
def Padded (text padded : List Char) : Prop :=
  ∃ before after, Blank before ∧ Blank after ∧ padded = before ++ text ++ after

theorem Padded.trim_eq {text padded : List Char} (around : Padded text padded) :
    trim padded = trim text := by
  obtain ⟨before, after, blank, blank', rfl⟩ := around
  exact trim_padded blank blank' text

end ChatRobots.Text
