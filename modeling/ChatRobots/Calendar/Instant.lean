/-
Module: ChatRobots.Calendar.Instant
Purpose: Moments of time, and the texts that are stored for them.
Main exports: Instant, Instant.toText, Instant.toAutoText, Instant.ofText
-/
import ChatRobots.Calendar.DateText
import ChatRobots.Number.Power

namespace ChatRobots

/-!
An instant is a day, a second of that day and a fraction, all at the zero offset.  During a leap
second the second stays at the last one of its minute and the fraction runs past a billion.

Stored instants have a fixed width, six digits of fraction and a final `Z`, so that for four-digit
years the order of the texts is the order of the instants.  A stored text is read by the rules of
internet timestamps: date, one of `T`, `t` and a space, time, an optional fraction of which nine
digits count, and an offset.
-/

/-- A moment of time at the zero offset. -/
structure Instant where
  date : Date
  second : Nat
  nanosecond : Nat
deriving DecidableEq

namespace Instant

/-- Hours, minutes and seconds of the day; a fraction past a billion shows as second sixty. -/
def clockText (instant : Instant) : List Char :=
  let extra := if instant.nanosecond < 1000000000 then 0 else 1
  paddedDigits 2 (instant.second / 3600) ++ ':' :: paddedDigits 2 (instant.second / 60 % 60)
    ++ ':' :: paddedDigits 2 (instant.second % 60 + extra)

/-- The stored text, with six digits of fraction. -/
def toText (instant : Instant) : String :=
  String.ofList <| instant.date.toText.toList ++ 'T' :: instant.clockText
    ++ '.' :: paddedDigits 6 (instant.nanosecond % 1000000000 / 1000) ++ ['Z']

/-- The text in data, with no fraction or three, six or nine digits of it. -/
def toAutoText (instant : Instant) : String :=
  let nanos := instant.nanosecond % 1000000000
  let fraction :=
    if nanos = 0 then []
    else if nanos % 1000000 = 0 then '.' :: paddedDigits 3 (nanos / 1000000)
    else if nanos % 1000 = 0 then '.' :: paddedDigits 6 (nanos / 1000)
    else '.' :: paddedDigits 9 nanos
  String.ofList <| instant.date.toText.toList ++ 'T' :: instant.clockText ++ fraction ++ ['Z']

/-- Read exactly `count` digits. -/
def readFixed : Nat → List Char → Except TimeTextError (Nat × List Char)
  | count, text =>
      let digits := text.take count
      if digits.length = count ∧ digits.all Char.isDigit then
        .ok (digitsValue digits, text.drop count)
      else .error .invalid

/-- Read exactly this character; its absence at the end of the text counts as another one. -/
def readFixedChar (expected : Char) : List Char → Except TimeTextError (List Char)
  | c :: rest => if c = expected then .ok rest else .error .invalid
  | [] => .error .invalid

/-- The fraction after the seconds: nine digits count, the others are skipped. -/
def readFraction : List Char → Except TimeTextError (Nat × List Char)
  | '.' :: text => do
      let (value, _) ← readDigits (some 9) text
      let run := text.takeWhile Char.isDigit
      pure (value * pow10 (9 - run.length), text.dropWhile Char.isDigit)
  | text => .ok (0, text)

/-- Read two digits of an offset. -/
def readTwo : List Char → Except TimeTextError (Nat × List Char)
  | a :: b :: rest =>
      if a.isDigit ∧ b.isDigit then .ok (digitsValue [a, b], rest) else .error .invalid
  | [a] => .error (if a.toNat < 0x80 then .tooShort else .invalid)
  | [] => .error .tooShort

/-- Read the offset in seconds: `Z`, or a signed time of less than a day. -/
def readOffset : List Char → Except TimeTextError (Int × List Char)
  | [] => .error .tooShort
  | sign :: text =>
      if sign = 'Z' ∨ sign = 'z' then .ok (0, text)
      else if sign = '+' ∨ sign = '-' ∨ sign = '\u2212' then do
        let (hours, text) ← readTwo text
        let text ← readChar ':' text
        let (minutes, text) ← readTwo text
        if 60 ≤ minutes then throw .outOfRange
        let seconds : Int := hours * 3600 + minutes * 60
        pure (if sign = '+' then seconds else -seconds, text)
      else .error .invalid

/-- The instant that a local day and second at an offset stand for. -/
def ofLocal? (date : Date) (second nanosecond : Nat) (offset : Int) : Option Instant :=
  let second : Int := second - offset
  if second < 0 then
    date.previous?.map fun date => ⟨date, (second + 86400).toNat, nanosecond⟩
  else if second < 86400 then some ⟨date, second.toNat, nanosecond⟩
  else date.next?.map fun date => ⟨date, (second - 86400).toNat, nanosecond⟩

/-- Read a timestamp that fills the whole text. -/
def ofText (text : String) : Except TimeTextError Instant := do
  if text.utf8ByteSize < 19 then throw .tooShort
  let (year, rest) ← readFixed 4 text.toList
  let rest ← readFixedChar '-' rest
  let (month, rest) ← readFixed 2 rest
  let rest ← readFixedChar '-' rest
  let (day, rest) ← readFixed 2 rest
  let some date := Date.of? year month day | throw .outOfRange
  let rest ← match rest with
    | c :: rest => if c = 'T' ∨ c = 't' ∨ c = ' ' then pure rest else throw .invalid
    | [] => throw .invalid
  let (hour, rest) ← readFixed 2 rest
  let rest ← readFixedChar ':' rest
  let (minute, rest) ← readFixed 2 rest
  let rest ← readFixedChar ':' rest
  let (second, rest) ← readFixed 2 rest
  let (nanosecond, rest) ← readFraction rest
  let leap := second = 60
  let second := if leap then 59 else second
  let nanosecond := if leap then nanosecond + 1000000000 else nanosecond
  unless hour < 24 ∧ minute < 60 ∧ second < 60 do throw .outOfRange
  let (offset, rest) ← readOffset rest
  unless rest.isEmpty do throw .trailing
  unless -86400 < offset ∧ offset < 86400 do throw .outOfRange
  match ofLocal? date (hour * 3600 + minute * 60 + second) nanosecond offset with
  | some instant => pure instant
  | none => throw .outOfRange

end Instant

end ChatRobots
