/-
Module: ChatRobots.Proofs.Calendar.Digits
Purpose: Decimal digits of a fixed width: their value, and their order as texts.
Main exports: digitsValue_paddedDigits, paddedDigits_append_not_lt, readFixed_paddedDigits,
  readDigits_paddedDigits
-/
import Mathlib.Data.String.Basic
import ChatRobots.Calendar.Instant

namespace ChatRobots

/-!
A number below a power of ten has one text of that many digits.  Reading the text gives the number
back, and texts of one width are ordered as their numbers are.  The second fact is stated with
arbitrary texts after the digits, so that it can be used field by field.
-/

/-- The value of digits is the one the standard library computes. -/
theorem digitsValue_eq_ofDigitChars (digits : List Char) :
    digitsValue digits = Nat.ofDigitChars 10 digits 0 := by
  simp only [digitsValue, Nat.ofDigitChars_eq_foldl, Nat.mul_comm]

theorem digitsValue_paddedDigits (width value : Nat) :
    digitsValue (paddedDigits width value) = value := by
  simp [digitsValue_eq_ofDigitChars, paddedDigits, Nat.ofDigitChars_append]

theorem length_paddedDigits {width value : Nat} (positive : 0 < width)
    (fits : value < 10 ^ width) : (paddedDigits width value).length = width := by
  have short : (Nat.toDigits 10 value).length ≤ width :=
    (Nat.length_toDigits_le_iff (by decide) positive).2 fits
  simp only [paddedDigits, List.length_append, List.length_replicate]
  omega

theorem isDigit_of_mem_paddedDigits {width value : Nat} {c : Char}
    (member : c ∈ paddedDigits width value) : c.isDigit = true := by
  rcases List.mem_append.1 member with zero | digit
  · rw [List.eq_of_mem_replicate zero]
    rfl
  · exact Nat.isDigit_of_mem_toDigits (by decide) (by decide) digit

theorem paddedDigits_ne_nil (width value : Nat) : paddedDigits width value ≠ [] := by
  intro empty
  have none_left := (List.append_eq_nil_iff.1 empty).2
  exact absurd none_left Nat.toDigits_ne_nil

/-- The value of digits after a leading one. -/
theorem digitsValue_cons (c : Char) (digits : List Char) :
    digitsValue (c :: digits) =
      10 ^ digits.length * (c.toNat - '0'.toNat) + digitsValue digits := by
  simp only [digitsValue_eq_ofDigitChars, Nat.ofDigitChars_cons]
  rw [Nat.ofDigitChars_eq_ofDigitChars_zero]
  simp

theorem toNat_of_isDigit {c : Char} (digit : c.isDigit = true) :
    48 ≤ c.toNat ∧ c.toNat ≤ 57 := by
  simpa [Char.isDigit, UInt32.le_iff_toNat_le] using digit

theorem digitsValue_lt {digits : List Char} (all : ∀ c ∈ digits, c.isDigit = true) :
    digitsValue digits < 10 ^ digits.length := by
  induction digits with
  | nil => decide
  | cons c digits ih =>
      have rest := ih fun d member => all d (List.mem_cons_of_mem _ member)
      have bound := toNat_of_isDigit (all c List.mem_cons_self)
      have lead : c.toNat - '0'.toNat ≤ 9 := by
        have : '0'.toNat = 48 := rfl
        omega
      have scaled := Nat.mul_le_mul_left (10 ^ digits.length) lead
      rw [digitsValue_cons, List.length_cons, Nat.pow_succ]
      omega

/-- Digits of one length are ordered as their values are. -/
theorem digitsValue_lt_of_lt {first second : List Char}
    (same : first.length = second.length)
    (digitsFirst : ∀ c ∈ first, c.isDigit = true)
    (digitsSecond : ∀ c ∈ second, c.isDigit = true)
    (less : first < second) : digitsValue first < digitsValue second := by
  induction first generalizing second with
  | nil =>
      cases second with
      | nil => simp at less
      | cons d second => simp at same
  | cons c first ih =>
      cases second with
      | nil => simp at same
      | cons d second =>
          have sameRest : first.length = second.length := by simpa using same
          have allFirst : ∀ e ∈ first, e.isDigit = true :=
            fun e member => digitsFirst e (List.mem_cons_of_mem _ member)
          have allSecond : ∀ e ∈ second, e.isDigit = true :=
            fun e member => digitsSecond e (List.mem_cons_of_mem _ member)
          rw [digitsValue_cons, digitsValue_cons, sameRest]
          rcases List.cons_lt_cons_iff.1 less with lead | ⟨rfl, rest⟩
          · -- the lead digit decides, whatever the others are
            have boundC := toNat_of_isDigit (digitsFirst c List.mem_cons_self)
            have boundFirst := digitsValue_lt allFirst
            have leadNat : c.toNat < d.toNat := by
              simpa [Char.lt_def, UInt32.lt_iff_toNat_lt] using lead
            have gap : c.toNat - '0'.toNat + 1 ≤ d.toNat - '0'.toNat := by
              have : '0'.toNat = 48 := rfl
              omega
            have scaled := Nat.mul_le_mul_left (10 ^ second.length) gap
            rw [sameRest] at boundFirst
            rw [Nat.mul_add, Nat.mul_one] at scaled
            omega
          · exact Nat.add_lt_add_left (ih sameRest allFirst allSecond rest) _

/-- Texts of one length decide the order of longer ones that they begin. -/
theorem append_not_lt_of_lex {first second : List Char} {afterFirst afterSecond : List Char}
    (same : first.length = second.length)
    (order : first < second ∨ first = second ∧ ¬ afterSecond < afterFirst) :
    ¬ second ++ afterSecond < first ++ afterFirst := by
  induction first generalizing second with
  | nil =>
      cases second with
      | nil => simpa using order
      | cons d second => simp at same
  | cons c first ih =>
      cases second with
      | nil => simp at same
      | cons d second =>
          have sameRest : first.length = second.length := by simpa using same
          rw [List.cons_append, List.cons_append, List.cons_lt_cons_iff]
          rintro (lead | ⟨rfl, rest⟩)
          · rcases order with less | ⟨equal, _⟩
            · rcases List.cons_lt_cons_iff.1 less with lead' | ⟨rfl, _⟩
              · exact lt_asymm lead lead'
              · exact lt_irrefl _ lead
            · obtain ⟨rfl, _⟩ := List.cons.inj equal
              exact lt_irrefl _ lead
          · refine ih sameRest ?_ rest
            rcases order with less | ⟨equal, after⟩
            · rcases List.cons_lt_cons_iff.1 less with lead | ⟨_, tail⟩
              · exact absurd lead (lt_irrefl _)
              · exact .inl tail
            · exact .inr ⟨(List.cons.inj equal).2, after⟩

/-- A field of digits comes first in the order of texts: the numbers decide, and only where they
are equal what follows. -/
theorem paddedDigits_append_not_lt {width first second : Nat} {afterFirst afterSecond : List Char}
    (positive : 0 < width) (fitsFirst : first < 10 ^ width) (fitsSecond : second < 10 ^ width)
    (order : first < second ∨ first = second ∧ ¬ afterSecond < afterFirst) :
    ¬ paddedDigits width second ++ afterSecond < paddedDigits width first ++ afterFirst := by
  have same : (paddedDigits width first).length = (paddedDigits width second).length := by
    rw [length_paddedDigits positive fitsFirst, length_paddedDigits positive fitsSecond]
  apply append_not_lt_of_lex same
  rcases order with less | ⟨rfl, rest⟩
  · rcases lt_trichotomy (paddedDigits width first) (paddedDigits width second) with
      before | equal | later
    · exact .inl before
    · have values := congrArg digitsValue equal
      simp only [digitsValue_paddedDigits] at values
      omega
    · have values := digitsValue_lt_of_lt same.symm
        (fun _ => isDigit_of_mem_paddedDigits) (fun _ => isDigit_of_mem_paddedDigits) later
      simp only [digitsValue_paddedDigits] at values
      omega
  · exact .inr ⟨rfl, rest⟩

/-- A field of a fixed width is read as the number it was written for. -/
theorem readFixed_paddedDigits {width value : Nat} (positive : 0 < width)
    (fits : value < 10 ^ width) (rest : List Char) :
    Instant.readFixed width (paddedDigits width value ++ rest) = .ok (value, rest) := by
  have width_eq := length_paddedDigits positive fits
  have taken : (paddedDigits width value ++ rest).take width = paddedDigits width value :=
    List.take_left' width_eq
  have dropped : (paddedDigits width value ++ rest).drop width = rest :=
    List.drop_left' width_eq
  have digits : (paddedDigits width value).all Char.isDigit = true :=
    List.all_eq_true.2 fun _ => isDigit_of_mem_paddedDigits
  simp only [Instant.readFixed, taken, dropped, width_eq, digits, digitsValue_paddedDigits,
    and_self, if_true]

/-- A run of digits that is not too long is read up to where it stops. -/
theorem readDigits_append {most : Option Nat} {digits rest : List Char} (given : digits ≠ [])
    (all : ∀ c ∈ digits, c.isDigit = true) (short : ∀ bound ∈ most, digits.length ≤ bound)
    (stops : ∀ c ∈ rest.head?, c.isDigit = false) :
    readDigits most (digits ++ rest) = .ok (digitsValue digits, rest) := by
  have none_follow : rest.takeWhile Char.isDigit = [] := by
    cases rest with
    | nil => rfl
    | cons c rest => rw [List.takeWhile_cons, stops c rfl, if_neg Bool.false_ne_true]
  obtain ⟨c, others, rfl⟩ := List.exists_cons_of_ne_nil given
  have run : (c :: (others ++ rest)).takeWhile Char.isDigit = c :: others := by
    rw [← List.cons_append, List.takeWhile_append_of_pos all, none_follow, List.append_nil]
  have left : (c :: (others ++ rest)).drop (c :: others).length = rest :=
    List.drop_left
  simp only [List.cons_append, readDigits, all c List.mem_cons_self, if_true, run]
  cases most with
  | none => rw [left]
  | some bound => simp only [List.take_of_length_le (short bound rfl), left]

/-- A field of digits is read as the number it was written for. -/
theorem readDigits_paddedDigits {most : Option Nat} {width value : Nat}
    (short : ∀ bound ∈ most, (paddedDigits width value).length ≤ bound) {rest : List Char}
    (stops : ∀ c ∈ rest.head?, c.isDigit = false) :
    readDigits most (paddedDigits width value ++ rest) = .ok (value, rest) := by
  rw [readDigits_append (paddedDigits_ne_nil width value)
    (fun _ => isDigit_of_mem_paddedDigits) short stops, digitsValue_paddedDigits]

end ChatRobots
