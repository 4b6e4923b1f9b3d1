import Mathlib.Data.Sign.Basic
import LineShell.Proofs.Arithmetic.Nesting

/-!
The remainder of a division. It is the one number that differs from the dividend by an integral
multiple of the divisor, is smaller in size than the divisor and has the sign of the dividend. So a
change of the dividend's sign changes that of the remainder, and the divisor's sign does not matter,
for numbers and for the expressions between parentheses that stand for them.
-/

namespace LineShell.Arithmetic

/-- Holds of two numbers and what is left of the first one after the second was taken away as often
as it fits. -/
structure IsRemainder (left right rest : Rat) : Prop where
  integral : ∃ quotient : Int, (left - rest) / right = quotient
  smaller : |rest| < |right|
  signed : rest = 0 ∨ SignType.sign rest = SignType.sign left

namespace IsRemainder

variable {left right rest other : Rat}

theorem divisor_ne_zero (isRemainder : IsRemainder left right rest) : right ≠ 0 := by
  have positive := (abs_nonneg rest).trans_lt isRemainder.smaller
  exact abs_pos.mp positive

theorem neg_left (isRemainder : IsRemainder left right rest) :
    IsRemainder (-left) right (-rest) := by
  obtain ⟨quotient, divided⟩ := isRemainder.integral
  refine ⟨⟨-quotient, ?_⟩, ?_, ?_⟩
  · rw [Int.cast_neg, ← divided, ← neg_div]
    ring
  · rw [abs_neg]
    exact isRemainder.smaller
  · rw [neg_eq_zero, Left.sign_neg, Left.sign_neg, neg_inj]
    exact isRemainder.signed

theorem neg_right (isRemainder : IsRemainder left right rest) : IsRemainder left (-right) rest := by
  obtain ⟨quotient, divided⟩ := isRemainder.integral
  refine ⟨⟨-quotient, ?_⟩, ?_, isRemainder.signed⟩
  · rw [Int.cast_neg, ← divided, div_neg]
  · rw [abs_neg]
    exact isRemainder.smaller

theorem eq_sign_mul_abs (isRemainder : IsRemainder left right rest) :
    rest = (SignType.sign left : Rat) * |rest| := by
  rcases isRemainder.signed with zero | signed
  · rw [zero, abs_zero, mul_zero]
  · rw [← signed, sign_mul_abs]

/-- Two remainders lie on the same side of zero, so they are less than the divisor apart. -/
theorem abs_sub_lt (one : IsRemainder left right rest) (two : IsRemainder left right other) :
    |rest - other| < |right| := by
  have signSize : |(SignType.sign left : Rat)| ≤ 1 := by
    cases SignType.sign left <;> norm_num
  calc |rest - other|
      = |(SignType.sign left : Rat)| * |(|rest| - |other|)| := by
        rw [← abs_mul, mul_sub, ← one.eq_sign_mul_abs, ← two.eq_sign_mul_abs]
    _ ≤ |(|rest| - |other|)| := mul_le_of_le_one_left (abs_nonneg _) signSize
    _ < |right| :=
        abs_sub_lt_of_nonneg_of_lt (abs_nonneg _) one.smaller (abs_nonneg _) two.smaller

theorem unique (one : IsRemainder left right rest) (two : IsRemainder left right other) :
    rest = other := by
  have nonzero := one.divisor_ne_zero
  obtain ⟨first, firstDivided⟩ := one.integral
  obtain ⟨second, secondDivided⟩ := two.integral
  have apart : rest - other = ((second - first : Int) : Rat) * right := by
    rw [Int.cast_sub, ← firstDivided, ← secondDivided]
    field_simp
    ring
  have near := one.abs_sub_lt two
  rw [apart, abs_mul, mul_lt_iff_lt_one_left (abs_pos.mpr nonzero)] at near
  have same : second - first = 0 := Int.abs_lt_one_iff.mp (by exact_mod_cast near)
  rw [same, Int.cast_zero, zero_mul] at apart
  exact sub_eq_zero.mp apart

end IsRemainder

theorem abs_sub_towardZero_lt_one (value : Rat) : |value - towardZero value| < 1 := by
  rw [towardZero]
  split
  · rw [abs_of_nonneg (sub_nonneg.mpr (Int.floor_le value)), sub_lt_iff_lt_add']
    exact Int.lt_floor_add_one value
  · rw [abs_of_nonpos (sub_nonpos.mpr (Int.le_ceil value)), neg_sub, sub_lt_iff_lt_add']
    exact Int.ceil_lt_add_one value

theorem sign_sub_towardZero (value : Rat) :
    value - towardZero value = 0 ∨
      SignType.sign (value - towardZero value) = SignType.sign value := by
  rw [towardZero]
  split
  · next nonnegative =>
      have whole : (0 : Rat) ≤ ⌊value⌋ := Int.cast_nonneg (Int.floor_nonneg.mpr nonnegative)
      rcases (sub_nonneg.mpr (Int.floor_le value)).eq_or_lt with zero | positive
      · exact Or.inl zero.symm
      · have positiveValue : 0 < value := by linarith
        exact Or.inr ((sign_pos positive).trans (sign_pos positiveValue).symm)
  · next negative =>
      have negativeValue := not_le.mp negative
      rcases (sub_nonpos.mpr (Int.le_ceil value)).eq_or_lt with zero | negativePart
      · exact Or.inl zero
      · exact Or.inr ((sign_neg negativePart).trans (sign_neg negativeValue).symm)

theorem isRemainder_towardZero (left : Rat) {right : Rat} (nonzero : right ≠ 0) :
    IsRemainder left right (left - right * towardZero (left / right)) := by
  have scaled : left - right * towardZero (left / right) =
      right * (left / right - towardZero (left / right)) := by
    rw [mul_sub, mul_div_cancel₀ left nonzero]
  refine ⟨⟨towardZero (left / right), ?_⟩, ?_, ?_⟩
  · rw [sub_sub_cancel, mul_div_cancel_left₀ _ nonzero]
  · rw [scaled, abs_mul]
    exact mul_lt_of_lt_one_right (abs_pos.mpr nonzero) (abs_sub_towardZero_lt_one _)
  · rw [scaled]
    rcases sign_sub_towardZero (left / right) with zero | signed
    · exact Or.inl (by rw [zero, mul_zero])
    · refine Or.inr ?_
      rw [sign_mul, signed, ← sign_mul, mul_div_cancel₀ left nonzero]

theorem remainderOf_eq_ok_iff_isRemainder {left right rest : Rat} :
    remainderOf left right = .ok rest ↔ IsRemainder left right rest := by
  rw [remainderOf_eq_ok_iff]
  constructor
  · rintro ⟨nonzero, rfl⟩
    exact isRemainder_towardZero left nonzero
  · intro isRemainder
    have nonzero := isRemainder.divisor_ne_zero
    exact ⟨nonzero, isRemainder.unique (isRemainder_towardZero left nonzero)⟩

def parenthesized (text : Text) : Text :=
  .char '(' :: text ++ [.char ')']

def negative (text : Text) : Text :=
  .char '-' :: parenthesized text

def modulo (first second : Text) : Text :=
  parenthesized first ++ .char '%' :: parenthesized second

theorem lexes_parenthesized {text : Text} {lexemes : List Lexeme} (lexed : Lexes text lexemes) :
    Lexes (parenthesized text) (.opening :: lexemes ++ [.closing]) :=
  .operator .opening (lexed.append_operator .closing .done)

theorem Derives.signed_parentheses {lexemes : List Lexeme} {expr : Expr}
    (derived : Derives .sum lexemes expr) :
    Derives .signed (.opening :: lexemes ++ [.closing]) expr :=
  .ofPower (.ofPrimary (.parentheses derived))

variable {first second : Text} {left right : Rat}

theorem evaluate_negative (value : evaluate first = .ok left) :
    evaluate (negative first) = .ok (-left) := by
  obtain ⟨lexemes, expr, lexed, derived, denotes⟩ := evaluate_eq_ok_iff.mp value
  have lexedWhole := Lexes.operator .minus (lexes_parenthesized lexed)
  have derivedWhole := Derives.ofProduct (.ofSigned (.negative derived.signed_parentheses))
  exact evaluate_eq_ok_iff.mpr ⟨_, _, lexedWhole, derivedWhole, .negated denotes⟩

/-- The remainder of two expressions with a value is that of their values, whether there is one or
not. -/
theorem evaluate_modulo (firstValue : evaluate first = .ok left)
    (secondValue : evaluate second = .ok right) :
    evaluate (modulo first second) = remainderOf left right := by
  obtain ⟨before, dividend, firstLexed, firstDerived, firstDenotes⟩ :=
    evaluate_eq_ok_iff.mp firstValue
  obtain ⟨after, divisor, secondLexed, secondDerived, secondDenotes⟩ :=
    evaluate_eq_ok_iff.mp secondValue
  have lexed := (lexes_parenthesized firstLexed).append_operator .remainder
    (lexes_parenthesized secondLexed)
  have derived := Derives.ofProduct (.product (.ofSigned firstDerived.signed_parentheses)
    .remainder secondDerived.signed_parentheses)
  rw [modulo, evaluate_eq_value lexed derived, Expr.value,
    Expr.value_eq_ok_iff.mpr firstDenotes, Expr.value_eq_ok_iff.mpr secondDenotes]
  rfl

/-- The remainder of every number and every divisor but zero is the one number with its three
properties. The sign of the dividend goes over to it and that of the divisor does not matter,
whatever expressions stand for the two numbers. -/
theorem remainder_truncates (left : Rat) {right : Rat} (nonzero : right ≠ 0) :
    ∃ rest, remainderOf left right = .ok rest ∧
      (∀ other, IsRemainder left right other ↔ other = rest) ∧
      remainderOf (-left) right = .ok (-rest) ∧ remainderOf left (-right) = .ok rest ∧
      ∀ first second : Text, evaluate first = .ok left → evaluate second = .ok right →
        evaluate (modulo first second) = .ok rest ∧
        evaluate (negative (modulo first second)) = .ok (-rest) ∧
        evaluate (modulo (negative first) second) = .ok (-rest) ∧
        evaluate (modulo first (negative second)) = .ok rest := by
  have isRemainder := isRemainder_towardZero left nonzero
  generalize left - right * towardZero (left / right) = rest at isRemainder
  have here := remainderOf_eq_ok_iff_isRemainder.mpr isRemainder
  have dividendNegated := remainderOf_eq_ok_iff_isRemainder.mpr isRemainder.neg_left
  have divisorNegated := remainderOf_eq_ok_iff_isRemainder.mpr isRemainder.neg_right
  refine ⟨rest, here, fun other => ⟨fun found => found.unique isRemainder, ?_⟩, dividendNegated,
    divisorNegated, fun first second firstValue secondValue => ?_⟩
  · rintro rfl
    exact isRemainder
  · have whole := (evaluate_modulo firstValue secondValue).trans here
    refine ⟨whole, evaluate_negative whole, ?_, ?_⟩
    · rw [evaluate_modulo (evaluate_negative firstValue) secondValue, dividendNegated]
    · rw [evaluate_modulo firstValue (evaluate_negative secondValue), divisorNegated]

/-- Neither number is an integer, and the dividend is negative. -/
theorem remainder_truncates_at_fractions :
    (2 / 3 : Rat) ≠ 0 ∧ remainderOf (-7 / 2) (2 / 3) = .ok (-1 / 6) ∧
      evaluate (modulo ['-', '7', '/', '2'] ['2', '/', '3']) = .ok (-1 / 6) ∧
      evaluate (modulo (negative ['-', '7', '/', '2']) ['2', '/', '3']) = .ok (1 / 6) ∧
      evaluate (modulo ['-', '7', '/', '2'] (negative ['2', '/', '3'])) = .ok (-1 / 6) := by
  have nonzero : (2 / 3 : Rat) ≠ 0 := by decide +kernel
  have computed : remainderOf (-7 / 2) (2 / 3) = .ok (-1 / 6) := by decide +kernel
  obtain ⟨rest, here, -, -, -, expressions⟩ := remainder_truncates (-7 / 2) nonzero
  obtain rfl := Except.ok.inj (here.symm.trans computed)
  obtain ⟨whole, -, dividendNegated, divisorNegated⟩ :=
    expressions ['-', '7', '/', '2'] ['2', '/', '3'] (by decide +kernel) (by decide +kernel)
  refine ⟨nonzero, computed, whole, ?_, divisorNegated⟩
  rw [dividendNegated]
  norm_num

end LineShell.Arithmetic
