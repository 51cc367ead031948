/-
Module: ChatRobots.Text.Lowercase
Purpose: Texts in lower case.
Main exports: lowercase, asciiLowercase, asciiUppercase
-/
import ChatRobots.Text.CaseTable

namespace ChatRobots.Text

/-!
Lower-casing goes character by character, with two exceptions.  A dotted capital I becomes two
characters.  A capital sigma becomes a final sigma at the end of a word and an ordinary one
elsewhere: it is final when a letter with case comes before it and none after it, characters that
are passed over aside.

`asciiLowercase` and `asciiUppercase` change the twenty-six letters and nothing else.
-/

/-- The lower-case form of a character, in the two cases where it depends on nothing else. -/
def lowerChar (c : Char) : List Char :=
  if c.toNat = 0x130 then ['i', '\u0307']
  else match lowerRuns.find? fun run => run.first ≤ c.toNat && c.toNat ≤ run.last
      && (c.toNat - run.first) % run.step == 0 with
    | some run => [Char.ofNat (c.toNat + run.shift).toNat]
    | none => [c]

/-- The first character that is not passed over is a letter with case. -/
def reachesCased (text : List Char) : Bool :=
  match text.dropWhile (inRanges caseIgnorableRanges) with
  | [] => false
  | c :: _ => inRanges casedRanges c

/-- Lower-case the rest of a text whose beginning is given in reverse. -/
def lowercaseFrom (before : List Char) : List Char → List Char
  | [] => []
  | c :: after =>
      let lower :=
        if c = 'Σ' then
          if reachesCased before && !reachesCased after then ['ς'] else ['σ']
        else lowerChar c
      lower ++ lowercaseFrom (c :: before) after

/-- The text in lower case. -/
def lowercase (text : List Char) : List Char :=
  lowercaseFrom [] text

/-- The text with its ASCII letters in lower case. -/
def asciiLowercase (text : String) : String :=
  String.ofList (text.toList.map Char.toLower)

/-- The text with its ASCII letters in upper case. -/
def asciiUppercase (text : String) : String :=
  String.ofList (text.toList.map Char.toUpper)

end ChatRobots.Text
