import LineShell.Proofs.Text.Numeral
import LineShell.Text.Word

namespace LineShell.Text

theorem isWordCharacter_of_isBlank {c : CodePoint} (blank : isBlank c = true) :
    isWordCharacter c = false := by
  have noLetter : isLetter c = false := Ranges.contains_eq_false (by decide +kernel) blank
  have noNumber : isOtherNumber c = false := Ranges.contains_eq_false (by decide +kernel) blank
  have noDigit : isDecimalDigit c = false := by
    rw [← Bool.not_eq_true]
    intro digit
    rw [isBlank_of_isDecimalDigit digit] at blank
    cases blank
  have noLowLine : c ≠ '_' := by
    rintro rfl
    exact absurd blank (by decide)
  simp [isWordCharacter, noLetter, noNumber, noDigit, noLowLine]

theorem isLetter_of_isDigit {c : CodePoint} (digit : c.isDigit = true) : isLetter c = false := by
  simp only [CodePoint.isDigit, Bool.and_eq_true, decide_eq_true_eq] at digit
  have high : c.toNat ≤ 57 := digit.2
  apply Ranges.contains_of_lt_head
  rintro range ⟨⟩
  omega

end LineShell.Text
