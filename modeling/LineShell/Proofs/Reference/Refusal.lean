import LineShell.Proofs.Reference.Concatenation

/-!
Which references are refused. The only code points without bytes are surrogates, and these are
neither word characters nor part of an identifier; so a refused reference has no default and stands
between braces, and the surrogate that it is refused for stands in the text.
-/

namespace LineShell

namespace Text

def surrogateRanges : Ranges :=
  [(0xD800, 0xDFFF)]

theorem contains_surrogate {ranges : Ranges} (separate : surrogateRanges.apart ranges = true)
    (offset : Fin 2048) : ranges.contains (CodePoint.surrogate offset).toNat = false := by
  have bound := offset.isLt
  have last : (CodePoint.surrogate offset).toNat ≤ 0xDFFF := by
    change 0xD800 + offset.val ≤ _
    omega
  have member : (0xD800, 0xDFFF) ∈ surrogateRanges := List.mem_cons_self
  exact Ranges.contains_eq_false separate
    (Ranges.contains_of_within (by decide) member (Nat.le_add_right ..) last)

theorem isLetter_surrogate (offset : Fin 2048) : isLetter (.surrogate offset) = false :=
  contains_surrogate (by decide +kernel) offset

theorem isDecimalDigit_surrogate (offset : Fin 2048) :
    isDecimalDigit (.surrogate offset) = false := by
  rw [← Bool.not_eq_true]
  intro digit
  have listed := contains_digitRanges digit
  rw [contains_surrogate (by decide +kernel)] at listed
  cases listed

theorem continuesIdentifier_surrogate (offset : Fin 2048) :
    continuesIdentifier (.surrogate offset) = false := by
  have noLetterLike : letterLikeRanges.contains (CodePoint.surrogate offset).toNat = false :=
    contains_surrogate (by decide +kernel) offset
  have noMark : combiningRanges.contains (CodePoint.surrogate offset).toNat = false :=
    contains_surrogate (by decide +kernel) offset
  simp [continuesIdentifier, startsIdentifier, isLetter_surrogate, isDecimalDigit_surrogate,
    noLetterLike, noMark]

theorem notMem_of_isIdentifier {name : Text} (identifier : isIdentifier name = true)
    (offset : Fin 2048) : .surrogate offset ∉ name := by
  intro inside
  have outside := continuesIdentifier_surrogate offset
  cases name with
  | nil => cases inside
  | cons c rest =>
      obtain ⟨starts, continues⟩ := Bool.and_eq_true_iff.mp identifier
      rcases List.mem_cons.mp inside with rfl | later
      · rw [continuesIdentifier, starts] at outside
        cases outside
      · rw [List.all_eq_true.mp continues _ later] at outside
        cases outside

end Text

namespace Reference

open Escape

/-- Holds of a text with an unescaped reference `${name}`. -/
def Asks (text name : Text) : Prop :=
  ∃ before after, text = before ++ .char '$' :: .char '{' :: name ++ .char '}' :: after ∧
    escapes (runAtEnd before) = false

theorem Asks.mem {text name : Text} (asks : Asks text name) {c : CodePoint} (inside : c ∈ name) :
    c ∈ text := by
  obtain ⟨before, after, rfl, -⟩ := asks
  simp [inside]

end Reference

namespace History

open Escape

end History

end LineShell
