/-
Module: ChatRobots.Proofs.Text.AsciiCase
Purpose: On ASCII texts the two ways of lower-casing are one.
Main exports: IsAscii, lowercase_of_ascii, asciiLowercase_eq_empty_iff
-/
import ChatRobots.Text.Lowercase

namespace ChatRobots.Text

/-!
The full lower-casing looks around a character only for a capital sigma, and it takes the forms of
the other characters from a table that goes far beyond ASCII.  Among the first 128 characters the
table has the twenty-six letters and nothing else, so for a text of these characters it changes
what `asciiLowercase` changes.
-/

/-- All characters of the text are among the first 128. -/
def IsAscii (text : String) : Prop :=
  ∀ c ∈ text.toList, c.toNat < 128

instance (text : String) : Decidable (IsAscii text) :=
  inferInstanceAs (Decidable (∀ c ∈ text.toList, c.toNat < 128))

/-- The table, read at each of the first 128 characters. -/
theorem lowerChar_ofNat_of_lt :
    ∀ n < 128, lowerChar (Char.ofNat n) = [(Char.ofNat n).toLower] := by
  decide +kernel

theorem lowerChar_of_ascii {c : Char} (ascii : c.toNat < 128) : lowerChar c = [c.toLower] := by
  have listed := lowerChar_ofNat_of_lt c.toNat ascii
  rwa [Char.ofNat_toNat] at listed

/-- Without a capital sigma nothing depends on what stands before. -/
theorem lowercaseFrom_of_ascii {text : List Char} (ascii : ∀ c ∈ text, c.toNat < 128)
    (before : List Char) : lowercaseFrom before text = text.map Char.toLower := by
  induction text generalizing before with
  | nil => rfl
  | cons c after ih =>
    have notSigma : c ≠ 'Σ' := by
      rintro rfl
      exact absurd (ascii 'Σ' List.mem_cons_self) (by decide)
    have rest : lowercaseFrom (c :: before) after = after.map Char.toLower :=
      ih (fun d mem => ascii d (List.mem_cons_of_mem c mem)) (c :: before)
    simp only [lowercaseFrom, if_neg notSigma, lowerChar_of_ascii (ascii c List.mem_cons_self),
      rest, List.singleton_append, List.map_cons]

theorem lowercase_of_ascii {text : String} (ascii : IsAscii text) :
    String.ofList (lowercase text.toList) = asciiLowercase text :=
  congrArg String.ofList (lowercaseFrom_of_ascii ascii [])

/-- Lower-casing takes no character away. -/
theorem asciiLowercase_eq_empty_iff {text : String} : asciiLowercase text = "" ↔ text = "" := by
  rw [asciiLowercase, ← String.toList_inj, ← String.toList_inj, String.toList_ofList]
  exact List.map_eq_nil_iff

end ChatRobots.Text
