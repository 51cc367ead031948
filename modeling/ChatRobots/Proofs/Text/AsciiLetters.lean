/-
Module: ChatRobots.Proofs.Text.AsciiLetters
Purpose: Changing the case of ASCII letters twice.
Main exports: asciiLowercase_idem, asciiLowercase_asciiUppercase, asciiUppercase_asciiLowercase
-/
import Mathlib
import ChatRobots.Text.Lowercase

namespace ChatRobots.Text

@[simp] theorem asciiLowercase_idem (text : String) :
    asciiLowercase (asciiLowercase text) = asciiLowercase text := by
  simp [asciiLowercase, Function.comp_def]

@[simp] theorem asciiLowercase_asciiUppercase (text : String) :
    asciiLowercase (asciiUppercase text) = asciiLowercase text := by
  simp [asciiLowercase, asciiUppercase, Function.comp_def]

@[simp] theorem asciiUppercase_asciiLowercase (text : String) :
    asciiUppercase (asciiLowercase text) = asciiUppercase text := by
  simp [asciiLowercase, asciiUppercase, Function.comp_def]

end ChatRobots.Text
