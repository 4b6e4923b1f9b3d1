import LineShell.Text.Basic
import LineShell.Text.Digit
import LineShell.Text.Letter

namespace LineShell.Text

def isWordCharacter (c : CodePoint) : Bool :=
  c = '_' || isLetter c || isDecimalDigit c || isOtherNumber c

def takeName? : Text → Option (Text × Text)
  | [] => none
  | c :: rest =>
      if isWordCharacter c && !isDecimalDigit c then
        some (c :: rest.takeWhile isWordCharacter, rest.dropWhile isWordCharacter)
      else none

theorem takeName?_append {text name after : Text} (found : takeName? text = some (name, after)) :
    text = name ++ after ∧ name ≠ [] := by
  cases text with
  | nil => simp [takeName?] at found
  | cons c rest =>
      rw [takeName?] at found
      split at found
      · simp only [Option.some.injEq, Prod.mk.injEq] at found
        obtain ⟨rfl, rfl⟩ := found
        simp
      · contradiction

theorem length_of_takeName? {text name after : Text}
    (found : takeName? text = some (name, after)) : after.length < text.length := by
  obtain ⟨rebuilt, nonempty⟩ := takeName?_append found
  have positive := List.length_pos_iff.mpr nonempty
  rw [rebuilt, List.length_append]
  omega

end LineShell.Text
