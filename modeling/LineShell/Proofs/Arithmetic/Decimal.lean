import Mathlib.Data.Rat.Lemmas
import LineShell.Arithmetic.Decimal

namespace LineShell

namespace Numeral

theorem isDigit_of_mem_digits {n : Nat} {c : CodePoint} (member : c ∈ digits n) :
    c.isDigit = true := by
  obtain ⟨digit, written, rfl⟩ := List.mem_map.mp member
  rw [CodePoint.isDigit_char]
  exact Nat.isDigit_of_mem_toDigits (by decide) (by decide) written

theorem digits_ne_nil (n : Nat) : digits n ≠ [] :=
  fun empty => Nat.toDigits_ne_nil (List.map_eq_nil_iff.mp empty)

theorem map_replaced_char (text : List Char) : (text.map .char).map CodePoint.replaced = text := by
  rw [List.map_map]
  exact List.map_id text

theorem value_digits (n : Nat) : value (digits n) = n := by
  rw [value, digits, map_replaced_char]
  exact Nat.ofDigitChars_ten_toDigits

theorem ofNat?_eq_some_iff {n : Nat} {text : Text} :
    ofNat? n = some text ↔ (digits n).length ≤ digitLimit ∧ text = digits n := by
  unfold ofNat?
  dsimp only
  rw [Option.ite_none_right_eq_some, Option.some_inj, eq_comm (a := text)]

end Numeral

namespace Arithmetic.Decimal

theorem isDigit_of_mem_fractionDigits {size : Nat} {c : CodePoint}
    (member : c ∈ fractionDigits size) :
    c.isDigit = true := by
  unfold fractionDigits at member
  dsimp only at member
  rw [List.mem_reverse] at member
  have kept := (List.dropWhile_sublist _).subset member
  rw [List.mem_reverse] at kept
  rcases List.mem_append.mp kept with padding | digit
  · rw [List.eq_of_mem_replicate padding]
    rfl
  · exact Numeral.isDigit_of_mem_digits digit

/-- A numeral is written with digits, at most a sign and a point, and has at least one digit. -/
theorem shape_of_ofRat? {value : Rat} {text : Text} (found : ofRat? value = some text) :
    text ≠ [] ∧ ∀ c ∈ text, c.isDigit = true ∨ c = '-' ∨ c = '.' := by
  unfold ofRat? at found
  dsimp only at found
  obtain ⟨whole, written, rfl⟩ := Option.map_eq_some_iff.mp found
  obtain ⟨-, rfl⟩ := Numeral.ofNat?_eq_some_iff.mp written
  constructor
  · have occupied := Numeral.digits_ne_nil (units value / scale)
    simp [occupied]
  · intro c member
    rcases List.mem_append.mp member with front | fraction
    · rcases List.mem_append.mp front with sign | whole
      · split at sign
        · exact Or.inr (Or.inl (List.mem_singleton.mp sign))
        · cases sign
      · exact Or.inl (Numeral.isDigit_of_mem_digits whole)
    · split at fraction
      · cases fraction
      · rcases List.mem_cons.mp fraction with point | place
        · exact Or.inr (Or.inr point)
        · exact Or.inl (isDigit_of_mem_fractionDigits place)

theorem units_natCast (n : Nat) : units n = n * scale := by
  unfold units roundToEven
  rw [Rat.num_natCast, Rat.den_natCast, Int.natAbs_natCast, Nat.div_one, Nat.mod_one]
  exact if_pos (by decide)

theorem ofRat?_natCast (n : Nat) : ofRat? n = Numeral.ofNat? n := by
  have positive : 0 < scale := by decide
  have unsigned : ¬((n : Rat).num < 0) := by
    rw [Rat.num_natCast]
    exact Int.not_lt.mpr (Int.natCast_nonneg n)
  unfold ofRat?
  dsimp only
  rw [units_natCast, Nat.mul_div_cancel n positive, Nat.mul_mod_left, if_pos rfl,
    decide_eq_false unsigned, Bool.false_and, if_neg Bool.false_ne_true]
  simp only [List.nil_append, List.append_nil, Option.map_id']

end Arithmetic.Decimal

end LineShell
