/-
Module: ChatRobots.Proofs.Calendar.InstantText
Purpose: The stored texts of clock times are read back, and are ordered as the times are.
Main exports: Instant.IsClockTime, Instant.toStored, Instant.ofText_toText, Instant.toText_not_lt,
  Steady
-/
import ChatRobots.Proofs.Calendar.DateText

namespace ChatRobots

/-!
What a clock shows has a year of four digits and no leap second.  Of such an instant everything
down to the microsecond is in its stored text.  As all these texts have the same shape, their order
is the order of the instants: an earlier instant never has a later text.
-/

namespace Instant

/-- What a clock shows: a year of four digits, a second of the day, and no leap second. -/
structure IsClockTime (time : Instant) : Prop where
  year_nonneg : 0 ≤ time.date.year
  year_le : time.date.year ≤ 9999
  second_lt : time.second < 86400
  nanosecond_lt : time.nanosecond < 1000000000

instance (time : Instant) : Decidable time.IsClockTime :=
  decidable_of_iff (0 ≤ time.date.year ∧ time.date.year ≤ 9999 ∧ time.second < 86400 ∧
    time.nanosecond < 1000000000)
    ⟨fun ⟨a, b, c, d⟩ => ⟨a, b, c, d⟩, fun ⟨a, b, c, d⟩ => ⟨a, b, c, d⟩⟩

/-- The first instant is not later than the second. -/
def NotAfter (first second : Instant) : Prop :=
  if first.date = second.date then
    first.second < second.second ∨
      first.second = second.second ∧ first.nanosecond ≤ second.nanosecond
  else first.date ≤ second.date

instance (first second : Instant) : Decidable (first.NotAfter second) :=
  inferInstanceAs (Decidable (if first.date = second.date then
    first.second < second.second ∨
      first.second = second.second ∧ first.nanosecond ≤ second.nanosecond
    else first.date ≤ second.date))

/-- What the stored text keeps of an instant: everything down to the microsecond. -/
def toStored (time : Instant) : Instant :=
  { time with nanosecond := time.nanosecond / 1000 * 1000 }

end Instant

namespace Instant

variable {time first second : Instant}

theorem IsClockTime.hasPlainYear (clock : time.IsClockTime) : time.date.HasPlainYear :=
  ⟨clock.year_nonneg, clock.year_le⟩

/-- The stored text of a clock time: its date, and then field by field. -/
theorem toList_toText (clock : time.IsClockTime) :
    time.toText.toList =
      time.date.toText.toList ++ 'T' :: (paddedDigits 2 (time.second / 3600) ++
        ':' :: (paddedDigits 2 (time.second / 60 % 60) ++ ':' ::
          (paddedDigits 2 (time.second % 60) ++
            '.' :: (paddedDigits 6 (time.nanosecond / 1000) ++ ['Z'])))) := by
  have fraction : time.nanosecond % 1000000000 = time.nanosecond :=
    Nat.mod_eq_of_lt clock.nanosecond_lt
  simp only [toText, clockText, fraction, clock.nanosecond_lt, if_true, String.toList_ofList,
    Nat.add_zero, List.append_assoc, List.cons_append]

/-- An earlier clock time never has a later text. -/
theorem toText_not_lt (clockFirst : first.IsClockTime) (clockSecond : second.IsClockTime)
    (order : first.NotAfter second) : ¬ second.toText < first.toText := by
  have := clockFirst.second_lt; have := clockSecond.second_lt
  have := clockFirst.nanosecond_lt; have := clockSecond.nanosecond_lt
  have same (c : Char) {textFirst textSecond : List Char} (rest : ¬ textSecond < textFirst) :
      ¬ c :: textSecond < c :: textFirst := by
    simpa [List.cons_lt_cons_iff] using rest
  rw [String.lt_iff, toList_toText clockFirst, toList_toText clockSecond]
  unfold NotAfter at order
  split at order
  · rename_i day
    have clock : first.second / 3600 < second.second / 3600 ∨
        first.second / 3600 = second.second / 3600 ∧
        (first.second / 60 % 60 < second.second / 60 % 60 ∨
          first.second / 60 % 60 = second.second / 60 % 60 ∧
          (first.second % 60 < second.second % 60 ∨
            first.second % 60 = second.second % 60 ∧
            first.nanosecond / 1000 ≤ second.nanosecond / 1000)) := by
      omega
    refine Date.toText_append_not_lt clockFirst.hasPlainYear clockSecond.hasPlainYear
      (.inr ⟨day, same _ ?_⟩)
    refine paddedDigits_append_not_lt (by decide) (by omega) (by omega)
      (clock.imp_right fun h => ⟨h.1, same _ ?_⟩)
    refine paddedDigits_append_not_lt (by decide) (by omega) (by omega)
      (h.2.imp_right fun h => ⟨h.1, same _ ?_⟩)
    refine paddedDigits_append_not_lt (by decide) (by omega) (by omega)
      (h.2.imp_right fun h => ⟨h.1, same _ ?_⟩)
    refine paddedDigits_append_not_lt (by decide) (by omega) (by omega)
      ((Nat.lt_or_eq_of_le h.2).imp_right fun h => ⟨h, lt_irrefl _⟩)
  -- With different days the clock does not matter.
  · rename_i day
    exact Date.toText_append_not_lt clockFirst.hasPlainYear clockSecond.hasPlainYear
      (.inl ⟨day, order⟩)

end Instant

/-- A text has at least as many bytes as characters. -/
theorem length_le_utf8ByteSize (text : List Char) :
    text.length ≤ (String.ofList text).utf8ByteSize := by
  induction text with
  | nil => exact Nat.zero_le _
  | cons c text ih =>
      have split : String.ofList (c :: text) = String.singleton c ++ String.ofList text := by
        rw [String.singleton_eq_ofList, ← String.ofList_append]
        rfl
      rw [split, String.utf8ByteSize_append, String.utf8ByteSize_singleton, List.length_cons]
      have := c.utf8Size_pos
      omega

namespace Instant

/-- A fraction of six digits is read as so many microseconds. -/
theorem readFraction_paddedDigits {micros : Nat} (fits : micros < 10 ^ 6) :
    readFraction ('.' :: (paddedDigits 6 micros ++ ['Z'])) = .ok (micros * 1000, ['Z']) := by
  have digits : ∀ c ∈ paddedDigits 6 micros, c.isDigit = true :=
    fun _ => isDigit_of_mem_paddedDigits
  have width : (paddedDigits 6 micros).length = 6 := length_paddedDigits (by decide) fits
  have run : (paddedDigits 6 micros ++ ['Z']).takeWhile Char.isDigit = paddedDigits 6 micros := by
    rw [List.takeWhile_append_of_pos digits]
    simp
  have after : (paddedDigits 6 micros ++ ['Z']).dropWhile Char.isDigit = ['Z'] := by
    rw [List.dropWhile_append_of_pos digits]
    simp
  have stops : ∀ c ∈ ['Z'].head?, c.isDigit = false := by
    rintro c ⟨⟩
    rfl
  have read : readDigits (some 9) (paddedDigits 6 micros ++ ['Z']) = .ok (micros, ['Z']) :=
    readDigits_paddedDigits (by simp [width]) stops
  simp [readFraction, read, run, after, width, pow10, bind, Except.bind, pure, Except.pure]

/-- The stored text of a clock time is read as that time, down to the microsecond. -/
theorem ofText_toText {time : Instant} (clock : time.IsClockTime) :
    ofText time.toText = .ok time.toStored := by
  have := clock.year_nonneg; have := clock.year_le
  have := clock.second_lt; have := clock.nanosecond_lt
  have := time.date.month_lt; have := time.date.day_lt
  have long : ¬ time.toText.utf8ByteSize < 19 := by
    have bound := length_le_utf8ByteSize time.toText.toList
    rw [String.ofList_toList, toList_toText clock, Date.toList_toText clock.hasPlainYear] at bound
    simp (disch := omega) only [List.length_append, List.length_cons, length_paddedDigits] at bound
    omega
  have year : ((time.date.year.toNat : Nat) : Int) = time.date.year := by omega
  have minute : time.second % 60 ≠ 60 := by omega
  have second : time.second / 3600 * 3600 + time.second / 60 % 60 * 60 + time.second % 60 =
      time.second := by omega
  have inRange : time.second / 3600 < 24 ∧ time.second / 60 % 60 < 60 ∧ time.second % 60 < 60 := by
    omega
  have local? : ofLocal? time.date time.second (time.nanosecond / 1000 * 1000) 0 =
      some time.toStored := by
    have start : ¬ ((time.second : Int) - 0 < 0) := by omega
    have finish : (time.second : Int) - 0 < 86400 := by omega
    simp only [ofLocal?, start, finish, if_true, if_false, toStored]
    simp
  have text := toList_toText clock
  simp only [Date.toList_toText clock.hasPlainYear, List.append_assoc, List.cons_append] at text
  unfold ofText
  rw [if_neg long, text]
  simp (disch := omega) only [readFixed_paddedDigits, bind, Except.bind, readFixedChar, if_true,
    year, Date.of?_self, true_or, pure, Except.pure]
  rw [readFraction_paddedDigits (by omega)]
  simp [minute, readOffset, inRange, second, local?]

end Instant

/-!
A run of the program reads the clock again and again.  What is promised of the readings is that
each is a clock time and none is before an earlier one.
-/

/-- Readings of a clock that never goes back. -/
structure Steady (times : List Instant) : Prop where
  clock : ∀ time ∈ times, time.IsClockTime
  ordered : times.Pairwise Instant.NotAfter

namespace Steady

variable {time : Instant} {times : List Instant}

instance (times : List Instant) : Decidable (Steady times) :=
  decidable_of_iff ((∀ time ∈ times, time.IsClockTime) ∧ times.Pairwise Instant.NotAfter)
    ⟨fun ⟨clock, ordered⟩ => ⟨clock, ordered⟩, fun ⟨clock, ordered⟩ => ⟨clock, ordered⟩⟩

theorem tail (steady : Steady (time :: times)) : Steady times :=
  ⟨fun _ member => steady.clock _ (List.mem_cons_of_mem _ member),
    (List.pairwise_cons.1 steady.ordered).2⟩

theorem sublist {fewer : List Instant} (part : fewer.Sublist times) (steady : Steady times) :
    Steady fewer :=
  ⟨fun _ member => steady.clock _ (part.subset member), steady.ordered.sublist part⟩

/-- A later reading has no earlier text. -/
theorem not_lt_of_mem {later : Instant} (steady : Steady (time :: times)) (member : later ∈ times) :
    ¬ later.toText < time.toText :=
  Instant.toText_not_lt (steady.clock _ List.mem_cons_self)
    (steady.clock _ (List.mem_cons_of_mem _ member))
    ((List.pairwise_cons.1 steady.ordered).1 _ member)

end Steady

end ChatRobots
