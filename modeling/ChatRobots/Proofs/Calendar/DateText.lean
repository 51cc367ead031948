/-
Module: ChatRobots.Proofs.Calendar.DateText
Purpose: Written dates are read back, and those with plain years are ordered as the days are.
Main exports: Date.month_mem, Date.day_mem, Date.le_total, Date.ofText_toText,
  Date.HasPlainYear, Date.toText_append_not_lt, Date.toText_lt_iff
-/
import ChatRobots.Proofs.Calendar.Digits

namespace ChatRobots

/-!
The text of a date gives the date back, whatever its year.  A hyphen stands for the sign of a year
and between the fields; as digits are read to their end, the two uses do not get mixed up.

A plain year is one that is written with four digits and no sign.  Dates with plain years have
texts of one shape, so these are ordered as the dates are, whatever follows them.
-/

namespace Date

open Calendar

/-- Months have numbers from one to twelve. -/
theorem month_mem (date : Date) : 1 ≤ date.month ∧ date.month ≤ 12 := by
  have exists_day := date.isDate.2.2
  unfold Calendar.daysInMonth at exists_day
  split at exists_day <;> omega

/-- Days have numbers from one to thirty-one. -/
theorem day_mem (date : Date) : 1 ≤ date.day ∧ date.day ≤ 31 := by
  have exists_day := date.isDate.2.2
  unfold Calendar.daysInMonth at exists_day
  split at exists_day <;> (try split at exists_day) <;> omega

theorem month_lt (date : Date) : date.month < 10 ^ 2 := by
  have := date.month_mem
  omega

theorem day_lt (date : Date) : date.day < 10 ^ 2 := by
  have := date.day_mem
  omega

section Order

variable {a b c : Date}

/-- Dates are compared by year, then by month, then by day. -/
theorem le_iff : a ≤ b ↔ a.year < b.year ∨ a.year = b.year ∧
    (a.month < b.month ∨ a.month = b.month ∧ a.day ≤ b.day) := by
  show a.le b = true ↔ _
  simp only [le, Bool.or_eq_true, Bool.and_eq_true, decide_eq_true_eq, beq_iff_eq]

theorem eq_of_fields (year : a.year = b.year) (month : a.month = b.month) (day : a.day = b.day) :
    a = b := by
  cases a
  cases b
  cases year
  cases month
  cases day
  rfl

theorem le_refl (a : Date) : a ≤ a :=
  le_iff.2 (.inr ⟨rfl, .inr ⟨rfl, Nat.le_refl _⟩⟩)

theorem le_trans (first : a ≤ b) (second : b ≤ c) : a ≤ c := by
  rw [le_iff] at *
  omega

theorem le_total (a b : Date) : a ≤ b ∨ b ≤ a := by
  rw [le_iff, le_iff]
  omega

theorem le_antisymm (first : a ≤ b) (second : b ≤ a) : a = b := by
  rw [le_iff] at *
  exact eq_of_fields (by omega) (by omega) (by omega)

end Order

section Reading

/-- Digits are not blank, so none are skipped before a field. -/
theorem trimStart_paddedDigits (width value : Nat) (rest : List Char) :
    Text.trimStart (paddedDigits width value ++ rest) = paddedDigits width value ++ rest := by
  obtain ⟨c, others, digits⟩ := List.exists_cons_of_ne_nil (paddedDigits_ne_nil width value)
  have digit : c.isDigit = true :=
    isDigit_of_mem_paddedDigits (digits ▸ List.mem_cons_self)
  apply Text.trimStart_eq_self
  rw [digits]
  rintro found ⟨⟩
  have bounds := toNat_of_isDigit digit
  simp [Text.isBlank]
  omega

/-- A plain year is read from its four digits. -/
theorem readYear_of_digits {value : Nat} (fits : value < 10 ^ 4) {rest : List Char}
    (stops : ∀ c ∈ rest.head?, c.isDigit = false) :
    readYear (paddedDigits 4 value ++ rest) = .ok ((value : Int), rest) := by
  have read : readDigits (some 4) (paddedDigits 4 value ++ rest) = .ok (value, rest) := by
    refine readDigits_paddedDigits ?_ stops
    rintro bound ⟨⟩
    exact Nat.le_of_eq (length_paddedDigits (by decide) fits)
  have inRange : -2147483648 ≤ (value : Int) ∧ (value : Int) < 2147483648 := by omega
  obtain ⟨c, others, digits⟩ := List.exists_cons_of_ne_nil (paddedDigits_ne_nil 4 value)
  have digit : c.isDigit = true := isDigit_of_mem_paddedDigits (digits ▸ List.mem_cons_self)
  rw [digits, List.cons_append] at read ⊢
  unfold readYear
  split
  -- The first character is a digit and not a sign.
  · rename_i minus
    exact absurd ((List.cons.inj minus).1 ▸ digit) (by decide)
  · rename_i plus
    exact absurd ((List.cons.inj plus).1 ▸ digit) (by decide)
  · simp only [read, Except.map, bind, Except.bind, if_pos inRange]
    rfl

/-- A year is read as it was written, up to the hyphen after it. -/
theorem readYear_yearText {year : Int} (fits : firstYear ≤ year ∧ year ≤ lastYear)
    (rest : List Char) :
    readYear (Text.trimStart (yearText year ++ '-' :: rest)) = .ok (year, '-' :: rest) := by
  have stops : ∀ c ∈ ('-' :: rest).head?, c.isDigit = false := by
    rintro c ⟨⟩
    rfl
  have inRange : -2147483648 ≤ year ∧ year < 2147483648 := by
    unfold firstYear lastYear at fits
    omega
  unfold yearText
  split
  · rename_i plain
    have value : ((year.toNat : Nat) : Int) = year := Int.toNat_of_nonneg plain.1
    rw [trimStart_paddedDigits, readYear_of_digits (by omega) stops, value]
  · have read : readDigits none (paddedDigits 4 year.natAbs ++ '-' :: rest) =
        .ok (year.natAbs, '-' :: rest) :=
      readDigits_paddedDigits (by simp) stops
    by_cases negative : year < 0
    · have value : -((year.natAbs : Nat) : Int) = year := by omega
      rw [if_pos negative]
      show readYear ('-' :: (paddedDigits 4 year.natAbs ++ '-' :: rest)) = _
      simp only [readYear, read, Except.map, bind, Except.bind, value, if_pos inRange]
      rfl
    · have value : ((year.natAbs : Nat) : Int) = year := by omega
      rw [if_neg negative]
      show readYear ('+' :: (paddedDigits 4 year.natAbs ++ '-' :: rest)) = _
      simp only [readYear, read, Except.map, bind, Except.bind, value, if_pos inRange]
      rfl

/-- A month or a day is read as it was written. -/
theorem readPart_paddedDigits {value last : Nat} (bounds : 1 ≤ value ∧ value ≤ last)
    (short : value < 10 ^ 2) {rest : List Char} (stops : ∀ c ∈ rest.head?, c.isDigit = false) :
    readPart last (paddedDigits 2 value ++ rest) = .ok (value, rest) := by
  have read : readDigits (some 2) (paddedDigits 2 value ++ rest) = .ok (value, rest) := by
    refine readDigits_paddedDigits ?_ stops
    rintro bound ⟨⟩
    exact Nat.le_of_eq (length_paddedDigits (by decide) short)
  rw [readPart, trimStart_paddedDigits, read]
  exact if_pos bounds

/-- Every date is read back from its text. -/
theorem ofText_toText (date : Date) : ofText date.toText = .ok date := by
  have stops (c : Char) (digit : c.isDigit = false) (rest : List Char) :
      ∀ d ∈ (c :: rest).head?, d.isDigit = false := by
    rintro d ⟨⟩
    exact digit
  have year := readYear_yearText ⟨date.isDate.1, date.isDate.2.1⟩
    (paddedDigits 2 date.month ++ '-' :: paddedDigits 2 date.day)
  have month := readPart_paddedDigits date.month_mem date.month_lt
    (stops '-' rfl (paddedDigits 2 date.day))
  have day : readPart 31 (paddedDigits 2 date.day ++ []) = .ok (date.day, []) :=
    readPart_paddedDigits date.day_mem date.day_lt (by simp)
  rw [List.append_nil] at day
  simp only [ofText, toText, String.toList_ofList, List.append_assoc, List.cons_append, year, month,
    day, readChar, bind, Except.bind, if_true, of?_self]
  rfl

theorem toText_injective : Function.Injective toText := by
  intro a b same
  have read := congrArg ofText same
  rw [ofText_toText, ofText_toText] at read
  exact Except.ok.inj read

end Reading

section Texts

/-- The year is written with four digits and no sign. -/
def HasPlainYear (date : Date) : Prop :=
  0 ≤ date.year ∧ date.year ≤ 9999

instance (date : Date) : Decidable date.HasPlainYear :=
  inferInstanceAs (Decidable (_ ∧ _))

variable {a b : Date}

/-- The text of a date with a plain year, field by field. -/
theorem toList_toText (plain : a.HasPlainYear) : a.toText.toList =
    paddedDigits 4 a.year.toNat ++ '-' :: (paddedDigits 2 a.month ++
      '-' :: paddedDigits 2 a.day) := by
  have year : yearText a.year = paddedDigits 4 a.year.toNat := if_pos plain
  simp only [toText, year, String.toList_ofList, List.append_assoc, List.cons_append]

/-- An earlier date never has a later text, whatever follows the two texts; only after one date
does it matter what follows. -/
theorem toText_append_not_lt (plain : a.HasPlainYear) (plain' : b.HasPlainYear)
    {after after' : List Char} (order : a ≠ b ∧ a ≤ b ∨ a = b ∧ ¬ after' < after) :
    ¬ b.toText.toList ++ after' < a.toText.toList ++ after := by
  have same (c : Char) {text text' : List Char} (rest : ¬ text' < text) :
      ¬ c :: text' < c :: text := by
    simpa [List.cons_lt_cons_iff] using rest
  obtain ⟨year, year_le⟩ := plain
  obtain ⟨year', year_le'⟩ := plain'
  have fields : a.year.toNat < b.year.toNat ∨ a.year.toNat = b.year.toNat ∧
      (a.month < b.month ∨ a.month = b.month ∧
        (a.day < b.day ∨ a.day = b.day ∧ ¬ after' < after)) := by
    rcases order with ⟨distinct, le⟩ | ⟨rfl, rest⟩
    · have differ : ¬ (a.year = b.year ∧ a.month = b.month ∧ a.day = b.day) :=
        fun fields => distinct (eq_of_fields fields.1 fields.2.1 fields.2.2)
      rw [le_iff] at le
      omega
    · exact .inr ⟨rfl, .inr ⟨rfl, .inr ⟨rfl, rest⟩⟩⟩
  rw [toList_toText ⟨year, year_le⟩, toList_toText ⟨year', year_le'⟩]
  simp only [List.append_assoc, List.cons_append]
  refine paddedDigits_append_not_lt (by decide) (by omega) (by omega)
    (fields.imp_right fun h => ⟨h.1, same _ ?_⟩)
  refine paddedDigits_append_not_lt (by decide) a.month_lt b.month_lt
    (h.2.imp_right fun h => ⟨h.1, same _ ?_⟩)
  exact paddedDigits_append_not_lt (by decide) a.day_lt b.day_lt h.2

/-- The order of the texts is the order of the dates. -/
theorem toText_lt_iff (plain : a.HasPlainYear) (plain' : b.HasPlainYear) :
    b.toText < a.toText ↔ ¬ a ≤ b := by
  have notAfter {a b : Date} (plain : a.HasPlainYear) (plain' : b.HasPlainYear) (le : a ≤ b) :
      ¬ b.toText < a.toText := by
    have order : a ≠ b ∧ a ≤ b ∨ a = b ∧ ¬ ([] : List Char) < [] := by
      by_cases same : a = b
      · exact .inr ⟨same, List.not_lt_nil _⟩
      · exact .inl ⟨same, le⟩
    have texts := toText_append_not_lt plain plain' order
    rw [List.append_nil, List.append_nil] at texts
    exact texts
  constructor
  · exact fun less le => notAfter plain plain' le less
  · intro later
    have le : b ≤ a := (le_total a b).resolve_left later
    have distinct : b.toText ≠ a.toText := fun same =>
      later (toText_injective same ▸ le_refl b)
    apply String.not_le.1
    intro textLe
    exact distinct (String.le_antisymm (String.not_lt.1 (notAfter plain' plain le)) textLe)

end Texts

end Date

end ChatRobots
