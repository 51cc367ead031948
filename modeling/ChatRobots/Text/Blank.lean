/-
Module: ChatRobots.Text.Blank
Purpose: Which characters count as white space, and what a text is without it at its ends.
Main exports: isBlank, trimStart, trimEnd, trim, Trimmed
-/

namespace ChatRobots.Text

/-!
White space is the Unicode property `White_Space`, not the handful of ASCII blanks: a command
pasted with a no-break space or an ideographic space at its end means the same command.  The
property is closed under no further rule, so it is listed as the ranges it consists of.

Trimming works on characters.  A text is *trimmed* when neither of its ends is blank; `trim`
always gives such a text and leaves one alone.
-/

/-- The Unicode property `White_Space`. -/
def isBlank (c : Char) : Bool :=
  let n := c.toNat
  (0x9 ≤ n && n ≤ 0xd) || n == 0x20 || n == 0x85 || n == 0xa0 || n == 0x1680
    || (0x2000 ≤ n && n ≤ 0x200a) || n == 0x2028 || n == 0x2029 || n == 0x202f
    || n == 0x205f || n == 0x3000

/-- The text from its first character that is not blank. -/
def trimStart (text : List Char) : List Char :=
  text.dropWhile isBlank

/-- The text up to its last character that is not blank. -/
def trimEnd (text : List Char) : List Char :=
  (text.reverse.dropWhile isBlank).reverse

/-- The text without the blanks at its two ends. -/
def trim (text : List Char) : List Char :=
  trimEnd (trimStart text)

/-- The text consists of blanks. -/
def isBlankText (text : String) : Bool :=
  (trim text.toList).isEmpty

/-- Neither end of the text is blank. -/
def Trimmed (text : List Char) : Prop :=
  (∀ c ∈ text.head?, isBlank c = false) ∧ (∀ c ∈ text.getLast?, isBlank c = false)

@[simp] theorem trim_nil : trim [] = [] := rfl

theorem trimStart_eq_self {text : List Char} (h : ∀ c ∈ text.head?, isBlank c = false) :
    trimStart text = text := by
  cases text with
  | nil => rfl
  | cons c rest =>
    have hc : isBlank c = false := h c rfl
    simp [trimStart, hc]

theorem trimEnd_eq_self {text : List Char} (h : ∀ c ∈ text.getLast?, isBlank c = false) :
    trimEnd text = text := by
  have h' : ∀ c ∈ text.reverse.head?, isBlank c = false := by simpa using h
  have : text.reverse.dropWhile isBlank = text.reverse := trimStart_eq_self h'
  simp [trimEnd, this]

theorem trim_eq_self {text : List Char} (h : Trimmed text) : trim text = text := by
  rw [trim, trimStart_eq_self h.1, trimEnd_eq_self h.2]

/-- What `dropWhile` leaves begins with a character that fails the test. -/
theorem head?_trimStart (text : List Char) :
    ∀ c ∈ (trimStart text).head?, isBlank c = false := by
  intro c hc
  have := List.head?_dropWhile_not isBlank text
  simp only [trimStart] at hc
  rw [Option.mem_def] at hc
  simpa [hc] using this

theorem getLast?_trimEnd (text : List Char) :
    ∀ c ∈ (trimEnd text).getLast?, isBlank c = false := by
  intro c hc
  have := head?_trimStart text.reverse c
  simp only [trimEnd, List.getLast?_reverse] at hc
  exact this hc

end ChatRobots.Text
