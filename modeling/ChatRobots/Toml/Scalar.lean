/-
Module: ChatRobots.Toml.Scalar
Purpose: The texts, numbers, dates and times of a document.
Main exports: quotedText, literalText, anyText, number, moment
-/
import ChatRobots.Number.Reader
import ChatRobots.Calendar.Date
import ChatRobots.Text.Hex
import ChatRobots.Toml.Reader
import ChatRobots.Toml.Value

namespace ChatRobots.Toml

open Reader

/-!
A text stands in single quotes as it is, or in double quotes with escapes, on one line or, with
the quotes tripled, on several.  On several lines the first line end is left out, a backslash at
the end of a line takes the white space after it away, and one or two quotes may stand anywhere,
also before the closing three.

Integers have 64 bits and, unless they are hexadecimal, octal or binary, no leading zeros.
Underscores may stand between digits.  Of floating-point numbers only their form is read, and that
they are not too large.
-/

/-! ## Texts -/

/-- The characters of a text on one line, quotes and backslashes aside. -/
def isTextChar (c : Char) : Bool :=
  c == '\t' || (0x20 ≤ c.toNat && c.toNat != 0x7f)

/-- The character with a number of this many digits. -/
def unicode (digits : Nat) : Reader Char := do
  let number := Text.hexNumber (← takeExactly Text.isHexDigit digits)
  require (number < 0xd800 || (0xe000 ≤ number && number < 0x110000))
  pure (Char.ofNat number)

/-- The character that an escape stands for, after its backslash. -/
def escaped : Reader Char := do
  match ← next with
  | 'b' => pure '\x08'
  | 't' => pure '\t'
  | 'n' => pure '\n'
  | 'f' => pure '\x0c'
  | 'r' => pure '\r'
  | '"' => pure '"'
  | '\\' => pure '\\'
  | 'u' => unicode 4
  | 'U' => unicode 8
  | _ => fail

/-- A text in double quotes, after the first of them. -/
def quotedText : Reader String := do
  let chars ← collect do
    match ← next with
    | '"' => pure none
    | '\\' => some <$> escaped
    | c => do
        require (isTextChar c)
        pure (some c)
  pure (String.ofList chars)

/-- A text in single quotes, after the first of them. -/
def literalText : Reader String := do
  let chars ← takeWhile fun c => isTextChar c && c != '\''
  exactly ['\'']
  pure (String.ofList chars)

/-- A run of quotes in a text on several lines: the quotes that belong to the text, and whether
the run ends it. -/
def quoteRun (quote : Char) : Reader (List Char × Bool) := do
  let run ← takeWhile (· == quote)
  if run.length < 3 then pure (run, false)
  else do
    require (run.length ≤ 5)
    pure (run.drop 3, true)

/-- A backslash at the end of a line, with the white space up to the next text. -/
def lineJoin : Reader Unit := do
  blanks
  newline
  let _ ← collect do
    match ← peek with
    | some ' ' | some '\t' => do let _ ← next; pure (some ())
    | some '\n' | some '\r' => attempt newline
    | _ => pure none

/-- A part of a text on several lines; none when its quotes have come. -/
inductive TextPart where
  | chars (chars : List Char)
  | last (chars : List Char)

/-- The next part of a text on several lines. -/
def textPart (quote : Char) (escapes : Bool) : Reader TextPart := do
  match ← peek with
  | none => fail
  | some c =>
      if c = quote then do
        let (chars, ends) ← quoteRun quote
        pure (if ends then .last chars else .chars chars)
      else if c = '\n' ∨ c = '\r' then do
        newline
        pure (.chars ['\n'])
      else if c = '\\' ∧ escapes then do
        let _ ← next
        match ← attempt lineJoin with
        | some () => pure (.chars [])
        | none => do
            let e ← escaped
            pure (.chars [e])
      else do
        let _ ← next
        require (isTextChar c)
        pure (.chars [c])

/-- The parts of a text on several lines, up to its closing quotes. -/
def textParts (quote : Char) (escapes : Bool) : Nat → Reader (List Char)
  | 0 => fail
  | bound + 1 => do
      match ← textPart quote escapes with
      | .last chars => pure chars
      | .chars chars => do
          let rest ← textParts quote escapes bound
          pure (chars ++ rest)

/-- A text on several lines, after its opening quotes. -/
def longText (quote : Char) (escapes : Bool) : Reader String := do
  let _ ← attempt newline
  let text ← get
  String.ofList <$> textParts quote escapes (text.length + 1)

/-- A text in any of its forms. -/
def anyText : Reader String := do
  if ← accept ['"', '"', '"'] then longText '"' true
  else if ← accept ['"'] then quotedText
  else if ← accept ['\'', '\'', '\''] then longText '\'' false
  else do
    exactly ['\'']
    literalText

/-! ## Numbers -/

/-- Digits after a first one, with underscores between digits. -/
def moreDigits (test : Char → Bool) : List Char → Option (List Char × List Char)
  | [] => some ([], [])
  | '_' :: d :: rest =>
      if test d then (moreDigits test rest).map fun (digits, rest) => (d :: digits, rest) else none
  | d :: rest =>
      if test d then (moreDigits test rest).map fun (digits, rest) => (d :: digits, rest)
      else if d = '_' then none
      else some ([], d :: rest)

/-- Digits with underscores between them. -/
def digitGroups (test : Char → Bool) : Reader (List Char) := do
  let first ← next
  require (test first)
  let rest ← moreDigits test
  pure (first :: rest)

/-- A sign, if there is one. -/
def sign : Reader (Option Char) := do
  match ← peek with
  | some '+' | some '-' => some <$> next
  | _ => pure none

/-- Decimal digits: zero, or digits of which the first is not zero. -/
def wholeDigits : Reader (List Char) := do
  match ← peek with
  | some '0' => do
      let _ ← next
      pure ['0']
  | _ => digitGroups Char.isDigit

/-- An exponent, if there is one. -/
def exponent : Reader (List Char) := do
  match ← peek with
  | some 'e' | some 'E' => do
      let _ ← next
      let sign ← sign
      let digits ← digitGroups Char.isDigit
      pure ('e' :: sign.toList ++ digits)
  | _ => pure []

/-- The range of integers. -/
def inRange (value : Int) : Bool :=
  -9223372036854775808 ≤ value && value < 9223372036854775808

/-- The value of digits in a base. -/
def baseValue (base : Nat) (digits : List Char) : Nat :=
  digits.foldl (fun value d => value * base + (Text.hexValue? d).getD 0) 0

/-- An integer in another base than ten, after its mark. -/
def basedInteger (base : Nat) (test : Char → Bool) : Reader Value := do
  let value : Int := baseValue base (← digitGroups test)
  require (inRange value)
  pure (.integer value)

/-- A decimal integer or a floating-point number, after its sign. -/
def decimalNumber (sign : Option Char) : Reader Value := do
  let whole ← wholeDigits
  let fraction ← do
    if ← accept ['.'] then some <$> digitGroups Char.isDigit else pure none
  let power ← exponent
  if fraction.isNone ∧ power = [] then
    let magnitude : Int := digitsValue whole
    let value := if sign = some '-' then -magnitude else magnitude
    require (inRange value)
    pure (.integer value)
  else
    let written := whole ++ (match fraction with
      | some digits => '.' :: digits
      | none => []) ++ power
    require (sign = some '-' || ((Decimal.read? written).bind Decimal.toNumber?).isSome)
    pure .float

/-- A number. -/
def number : Reader Value := do
  if ← accept ['0', 'x'] then basedInteger 16 Text.isHexDigit
  else if ← accept ['0', 'o'] then basedInteger 8 fun c => '0' ≤ c && c ≤ '7'
  else if ← accept ['0', 'b'] then basedInteger 2 fun c => c == '0' || c == '1'
  else do
    let sign ← sign
    if ← accept ['i', 'n', 'f'] then pure .float
    else if ← accept ['n', 'a', 'n'] then pure .float
    else decimalNumber sign

/-! ## Dates and times -/

/-- A number of this many digits within bounds. -/
def fixedNumber (digits low high : Nat) : Reader Nat := do
  let value := digitsValue (← takeExactly Char.isDigit digits)
  require (low ≤ value && value ≤ high)
  pure value

def calendarDay : Reader (Nat × Nat × Nat) := do
  let year ← fixedNumber 4 0 9999
  exactly ['-']
  let month ← fixedNumber 2 1 12
  exactly ['-']
  let day ← fixedNumber 2 1 (Calendar.daysInMonth year month)
  pure (year, month, day)

/-- The fraction of a second in nanoseconds; digits beyond the ninth are dropped. -/
def fraction : Reader Nat := do
  if ← accept ['.'] then do
    let digits ← takeWhile Char.isDigit
    require !digits.isEmpty
    let digits := digits.take 9
    pure (digitsValue digits * pow10 (9 - digits.length))
  else pure 0

def timeOfDay : Reader (Nat × Nat × Nat × Nat) := do
  let hour ← fixedNumber 2 0 23
  exactly [':']
  let minute ← fixedNumber 2 0 59
  exactly [':']
  let second ← fixedNumber 2 0 60
  let nanosecond ← fraction
  pure (hour, minute, second, nanosecond)

/-- An offset, if there is one. -/
def offset : Reader (Option (Option Int)) := do
  match ← peek with
  | some 'Z' | some 'z' => do
      let _ ← next
      pure (some none)
  | some '+' | some '-' => do
      let sign ← next
      let hour ← fixedNumber 2 0 23
      exactly [':']
      let minute ← fixedNumber 2 0 59
      let minutes : Int := hour * 60 + minute
      pure (some (some (if sign = '-' then -minutes else minutes)))
  | _ => pure none

/-- The time after a date, if one follows. -/
def timeAfterDate : Reader (Option (Nat × Nat × Nat × Nat)) :=
  attempt do
    let mark ← next
    require (mark == 'T' || mark == 't' || mark == ' ')
    timeOfDay

/-- A date, a time, or both. -/
def moment : Reader Value := do
  match ← attempt calendarDay with
  | some date => do
      match ← timeAfterDate with
      | none => pure (.moment ⟨some date, none, none⟩)
      | some time => do
          let offset ← offset
          pure (.moment ⟨some date, some time, offset⟩)
  | none => do
      let time ← timeOfDay
      pure (.moment ⟨none, some time, none⟩)

end ChatRobots.Toml
