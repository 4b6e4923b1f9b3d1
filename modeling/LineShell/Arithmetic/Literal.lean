import LineShell.Text.Numeral

namespace LineShell.Arithmetic

/-- A number as it is written: its whole digits and, if it has a point, its decimal digits. -/
structure Literal where
  whole : Text
  places : Option Text
  deriving DecidableEq, Repr

namespace Literal

def text (literal : Literal) : Text :=
  match literal.places with
  | none => literal.whole
  | some places => literal.whole ++ .char '.' :: places

def value? (literal : Literal) : Option Rat :=
  let places := literal.places.getD []
  if literal.whole.length ≤ Numeral.digitLimit && places.length ≤ Numeral.digitLimit then
    some (mkRat (Numeral.value (literal.whole ++ places)) (Nat.pow 10 places.length))
  else none

def take? (text : Text) : Option (Literal × Text) :=
  let whole := text.takeWhile (·.isDigit)
  match text.dropWhile (·.isDigit) with
  | '.' :: more =>
      let places := more.takeWhile (·.isDigit)
      if whole.isEmpty && places.isEmpty then none
      else some (⟨whole, some places⟩, more.dropWhile (·.isDigit))
  | rest => if whole.isEmpty then none else some (⟨whole, none⟩, rest)

theorem take?_append {text after : Text} {literal : Literal}
    (found : take? text = some (literal, after)) : text = literal.text ++ after := by
  unfold take? at found
  dsimp only at found
  have parts := List.takeWhile_append_dropWhile (p := (·.isDigit)) (l := text)
  split at found
  · next more pointed =>
      split at found
      · contradiction
      · simp only [Option.some.injEq, Prod.mk.injEq] at found
        obtain ⟨rfl, rfl⟩ := found
        rw [pointed] at parts
        simp only [Literal.text, List.append_assoc, List.cons_append,
          List.takeWhile_append_dropWhile]
        exact parts.symm
  · split at found
    · contradiction
    · simp only [Option.some.injEq, Prod.mk.injEq] at found
      obtain ⟨rfl, rfl⟩ := found
      simp [Literal.text, parts]

theorem length_of_take? {text after : Text} {literal : Literal}
    (found : take? text = some (literal, after)) : after.length < text.length := by
  have rebuilt := take?_append found
  have nonempty : literal.text ≠ [] := by
    unfold take? at found
    dsimp only at found
    split at found
    · split at found
      · contradiction
      · simp only [Option.some.injEq, Prod.mk.injEq] at found
        obtain ⟨rfl, _⟩ := found
        simp [Literal.text]
    · split at found
      · contradiction
      · next occupied =>
          simp only [Option.some.injEq, Prod.mk.injEq] at found
          obtain ⟨rfl, _⟩ := found
          simpa [Literal.text] using occupied
  have positive := List.length_pos_iff.mpr nonempty
  rw [rebuilt, List.length_append]
  omega

end Literal

end LineShell.Arithmetic
