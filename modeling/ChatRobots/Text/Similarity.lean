/-
Module: ChatRobots.Text.Similarity
Purpose: How much alike two words are, to find the word that someone may have meant.
Main exports: similarity, similarWords
-/

namespace ChatRobots.Text

/-!
Two words have a character in common when it stands in both at places not too far apart: less than
half the length of the longer word.  Going through one word from its beginning, each character is
paired with the first one of the other word that is equal, near enough and not yet paired.

The similarity is the mean of three shares: of the paired characters among those of either word,
and, among the pairs, of those that are in order, two pairs in each other's place counting as one
that is not.  Words with a similarity of seven tenths are similar.
-/

/-- Pair a character with the first equal one at the places from `low` up to `high`. -/
def pairChar? (c : Char) : Nat → Nat → List (Char × Bool) → Option (List (Char × Bool))
  | _, _, [] => none
  | _, 0, _ :: _ => none
  | low, high + 1, (x, paired) :: rest =>
      if low = 0 ∧ x = c ∧ !paired then some ((x, true) :: rest)
      else (pairChar? c (low - 1) high rest).map ((x, paired) :: ·)

/-- Pair the characters of a word, from a place in it on, with those of the other word: the paired
ones of the first word, and the other word with its paired characters marked. -/
def pairChars (reach place : Nat) :
    List Char → List (Char × Bool) → List Char × List (Char × Bool)
  | [], other => ([], other)
  | c :: rest, other =>
      match pairChar? c (place - reach) (place + reach + 1) other with
      | some other =>
          let (pairs, other) := pairChars reach (place + 1) rest other
          (c :: pairs, other)
      | none => pairChars reach (place + 1) rest other

/-- How much alike two words are, from nothing in common to equal. -/
def similarity (a b : List Char) : Rat :=
  let reach := max a.length b.length / 2 - 1
  let (left, marked) := pairChars reach 0 a (b.map ((·, false)))
  let right := (marked.filter (·.2)).map (·.1)
  let pairs := left.length
  let swapped := ((left.zip right).filter fun (x, y) => x != y).length / 2
  if a.isEmpty && b.isEmpty then 1
  else if pairs = 0 then 0
  else (pairs / a.length + pairs / b.length + (pairs - swapped) / pairs : Rat) / 3

/-- The words similar to a given one, the most similar last. -/
def similarWords (word : String) (words : List String) : List String :=
  let score (other : String) : Rat := similarity word.toList other.toList
  (words.filter fun other => 7 / 10 ≤ score other).mergeSort fun a b => score a ≤ score b

end ChatRobots.Text
