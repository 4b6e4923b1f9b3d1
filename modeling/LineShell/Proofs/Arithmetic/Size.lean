import LineShell.Proofs.Arithmetic.Nesting

/-!
How large the value of a text can be. The size of a number is that of the larger of its parts in
lowest terms. A sum, a product or a remainder needs little more than its operands together, a power
has a limit of its own and a double is of fixed size, so each character of a text pays for what it
adds.
-/

namespace LineShell.Arithmetic

/-- Holds of a number whose parts have at most so many binary digits. -/
structure Fits (bits : Nat) (value : Rat) : Prop where
  numerator : value.num.natAbs < 2 ^ bits
  denominator : value.den < 2 ^ bits

theorem partSize_le_iff {value : Rat} {bits : Nat} : partSize value ≤ bits ↔ Fits bits value := by
  rw [partSize, max_le_iff, Nat.size_le, Nat.size_le]
  constructor
  · intro both
    exact ⟨both.1, both.2⟩
  · intro fits
    exact ⟨fits.numerator, fits.denominator⟩

theorem fits_partSize (value : Rat) : Fits (partSize value) value :=
  partSize_le_iff.mp (Nat.le_refl _)

theorem Fits.mono {bits more : Nat} {value : Rat} (fits : Fits bits value) (within : bits ≤ more) :
    Fits more value :=
  partSize_le_iff.mp ((partSize_le_iff.mpr fits).trans within)

theorem Fits.of_quotient {bits : Nat} {numerator : Int} {denominator : Nat}
    (positive : 0 < denominator) (numeratorFits : numerator.natAbs < 2 ^ bits)
    (denominatorFits : denominator < 2 ^ bits) :
    Fits bits ((numerator : Rat) / (denominator : Rat)) := by
  have nonzero : (denominator : Int) ≠ 0 := by omega
  have asQuotient : (numerator : Rat) / (denominator : Rat) = Rat.divInt numerator denominator := by
    rw [Rat.divInt_eq_div, Int.cast_natCast]
  rw [asQuotient]
  constructor
  · have divides := Int.natAbs_dvd_natAbs.mpr (Rat.num_dvd numerator nonzero)
    by_cases zero : numerator = 0
    · rw [zero, Rat.zero_divInt]
      exact Nat.two_pow_pos bits
    · have smaller := Nat.le_of_dvd (Int.natAbs_pos.mpr zero) divides
      omega
  · have divides := Int.natCast_dvd_natCast.mp (Rat.den_dvd numerator denominator)
    have smaller := Nat.le_of_dvd positive divides
    omega

theorem mul_lt_two_pow_add {first second m n : Nat} (firstFits : first < 2 ^ m)
    (secondFits : second < 2 ^ n) : first * second < 2 ^ (m + n) := by
  rw [Nat.pow_add]
  exact Nat.mul_lt_mul'' firstFits secondFits

variable {left right : Rat} {m n : Nat}

theorem Fits.neg {bits : Nat} {value : Rat} (fits : Fits bits value) : Fits bits (-value) := by
  constructor
  · rw [Rat.num_neg_eq_neg_num, Int.natAbs_neg]
    exact fits.numerator
  · rw [Rat.den_neg_eq_den]
    exact fits.denominator

theorem Fits.add (first : Fits m left) (second : Fits n right) :
    Fits (m + n + 1) (left + right) := by
  have leftNonzero : (left.den : Rat) ≠ 0 := Nat.cast_ne_zero.mpr left.den_ne_zero
  have rightNonzero : (right.den : Rat) ≠ 0 := Nat.cast_ne_zero.mpr right.den_ne_zero
  have asQuotient : left + right =
      ((left.num * right.den + left.den * right.num : Int) : Rat) /
        ((left.den * right.den : Nat) : Rat) := by
    push_cast
    rw [← div_add_div _ _ leftNonzero rightNonzero, Rat.num_div_den, Rat.num_div_den]
  rw [asQuotient]
  apply Fits.of_quotient (Nat.mul_pos left.den_pos right.den_pos)
  · have total := Int.natAbs_add_le (left.num * right.den) (left.den * right.num)
    have firstPart := mul_lt_two_pow_add first.numerator second.denominator
    have secondPart := mul_lt_two_pow_add first.denominator second.numerator
    rw [Int.natAbs_mul, Int.natAbs_mul, Int.natAbs_natCast, Int.natAbs_natCast] at total
    rw [Nat.pow_succ]
    omega
  · have product := mul_lt_two_pow_add first.denominator second.denominator
    rw [Nat.pow_succ]
    omega

theorem Fits.sub (first : Fits m left) (second : Fits n right) :
    Fits (m + n + 1) (left - right) := by
  rw [sub_eq_add_neg]
  exact first.add second.neg

theorem Fits.mul (first : Fits m left) (second : Fits n right) : Fits (m + n) (left * right) := by
  have asQuotient : left * right =
      ((left.num * right.num : Int) : Rat) / ((left.den * right.den : Nat) : Rat) := by
    push_cast
    rw [mul_div_mul_comm, Rat.num_div_den, Rat.num_div_den]
  rw [asQuotient]
  apply Fits.of_quotient (Nat.mul_pos left.den_pos right.den_pos)
  · rw [Int.natAbs_mul]
    exact mul_lt_two_pow_add first.numerator second.numerator
  · exact mul_lt_two_pow_add first.denominator second.denominator

theorem Fits.inv {bits : Nat} {value : Rat} (fits : Fits bits value) : Fits bits value⁻¹ := by
  by_cases zero : value = 0
  · rw [zero, inv_zero, ← zero]
    exact fits
  · have sign : value.num.sign.natAbs = 1 := Int.natAbs_sign_of_ne_zero (Rat.num_ne_zero.mpr zero)
    constructor
    · rw [Rat.num_inv, Int.natAbs_mul, sign, Nat.one_mul, Int.natAbs_natCast]
      exact fits.denominator
    · rw [Rat.den_inv, if_neg (Rat.num_ne_zero.mpr zero)]
      exact fits.numerator

theorem Fits.div (first : Fits m left) (second : Fits n right) : Fits (m + n) (left / right) := by
  rw [div_eq_mul_inv]
  exact first.mul second.inv

theorem Fits.pow {bits : Nat} {value : Rat} (fits : Fits bits value) {count : Nat}
    (positive : count ≠ 0) : Fits (bits * count) (value ^ count) := by
  constructor
  · rw [Rat.num_pow, Int.natAbs_pow, Nat.pow_mul]
    exact Nat.pow_lt_pow_left fits.numerator positive
  · rw [Rat.den_pow, Nat.pow_mul]
    exact Nat.pow_lt_pow_left fits.denominator positive

theorem abs_sub_towardZero_le (value : Rat) : |value - towardZero value| ≤ |value| := by
  rw [towardZero]
  split
  · next nonnegative =>
      have whole : (0 : Rat) ≤ ⌊value⌋ := Int.cast_nonneg (Int.floor_nonneg.mpr nonnegative)
      have below := Int.floor_le value
      rw [abs_of_nonneg nonnegative, abs_of_nonneg (sub_nonneg.mpr below)]
      linarith
  · next negative =>
      have negative := not_le.mp negative
      have whole : (⌈value⌉ : Rat) ≤ 0 := by
        exact_mod_cast Int.ceil_le.mpr (by simpa using negative.le)
      have above := Int.le_ceil value
      rw [abs_of_neg negative, abs_of_nonpos (sub_nonpos.mpr above)]
      linarith

theorem abs_remainder_le (left : Rat) {right : Rat} (nonzero : right ≠ 0) :
    |left - right * towardZero (left / right)| ≤ |left| := by
  calc |left - right * towardZero (left / right)|
      = |right * (left / right - towardZero (left / right))| := by
        rw [mul_sub, mul_div_cancel₀ left nonzero]
    _ = |right| * |left / right - towardZero (left / right)| := abs_mul _ _
    _ ≤ |right| * |left / right| :=
        mul_le_mul_of_nonneg_left (abs_sub_towardZero_le _) (abs_nonneg _)
    _ = |left| := by rw [← abs_mul, mul_div_cancel₀ left nonzero]

theorem Fits.remainder (first : Fits m left) (second : Fits n right) (nonzero : right ≠ 0) :
    Fits (m + n) (left - right * towardZero (left / right)) := by
  generalize wholes : towardZero (left / right) = whole
  have smaller := abs_remainder_le left nonzero
  rw [wholes] at smaller
  have positive : 0 < left.den * right.den := Nat.mul_pos left.den_pos right.den_pos
  have scaled : (left - right * whole) * ((left.den * right.den : Nat) : Rat) =
      ((left.num * right.den - left.den * right.num * whole : Int) : Rat) := by
    push_cast
    rw [← Rat.mul_den_eq_num left, ← Rat.mul_den_eq_num right]
    ring
  have leftScaled : left * ((left.den * right.den : Nat) : Rat) =
      ((left.num * right.den : Int) : Rat) := by
    push_cast
    rw [← Rat.mul_den_eq_num left]
    ring
  have bounded : (left.num * right.den - left.den * right.num * whole).natAbs ≤
      (left.num * right.den).natAbs := by
    have product := mul_le_mul_of_nonneg_right smaller
      (abs_nonneg ((left.den * right.den : Nat) : Rat))
    rw [← abs_mul, ← abs_mul, scaled, leftScaled] at product
    have integers : |left.num * right.den - left.den * right.num * whole| ≤
        |left.num * right.den| := by exact_mod_cast product
    rwa [Int.abs_eq_natAbs, Int.abs_eq_natAbs, Int.ofNat_le] at integers
  have nonzeroScale : ((left.den * right.den : Nat) : Rat) ≠ 0 :=
    Nat.cast_ne_zero.mpr positive.ne'
  rw [eq_div_of_mul_eq nonzeroScale scaled]
  apply Fits.of_quotient positive
  · apply Nat.lt_of_le_of_lt bounded
    rw [Int.natAbs_mul, Int.natAbs_natCast]
    exact mul_lt_two_pow_add first.numerator second.denominator
  · exact mul_lt_two_pow_add first.denominator second.denominator

theorem fits_one : Fits 1 1 := by
  constructor
  · decide
  · decide

/-- A power with an integral exponent keeps the limit that its expected size was tested against. -/
theorem Fits.zpow {base : Rat} {exponent : Int}
    (within : exponent.natAbs * partSize base ≤ powerBitLimit) :
    Fits powerBitLimit (base ^ exponent) := by
  by_cases zero : exponent = 0
  · rw [zero, zpow_zero]
    exact fits_one.mono (by decide)
  · have positive : exponent.natAbs ≠ 0 := Int.natAbs_ne_zero.mpr zero
    have enough : partSize base * exponent.natAbs ≤ powerBitLimit := by
      rw [Nat.mul_comm]
      exact within
    by_cases negative : exponent < 0
    · rw [zpow_of_negative base negative]
      exact ((fits_partSize base).inv.pow positive).mono enough
    · rw [zpow_of_nonnegative base negative]
      exact ((fits_partSize base).pow positive).mono enough

/-- The binary digits of the greatest finite double, counted in units of the least positive one. -/
def Double.unitDigits : Nat := 2098

theorem Double.magnitude_lt {bits : UInt64} (finite : Double.kind bits = .finite) :
    Double.magnitude bits < 2 ^ Double.unitDigits := by
  have within : Double.unsigned bits < Double.infinityBits := by
    rw [Double.kind] at finite
    split at finite
    · assumption
    · split at finite <;> cases finite
  have digits : Double.unsigned bits % 2 ^ 52 < 2 ^ 52 := Nat.mod_lt _ (Nat.two_pow_pos 52)
  have exponent : Double.unsigned bits / 2 ^ 52 < 2047 := by
    apply Nat.div_lt_of_lt_mul
    exact within
  obtain ⟨high, shift, total⟩ : ∃ high, Double.unsigned bits / 2 ^ 52 - 1 ≤ high ∧
      Double.unitDigits = 53 + high := ⟨2045, by omega, rfl⟩
  unfold Double.magnitude
  dsimp only
  rw [Nat.pow_eq, total]
  split
  · exact digits.trans (Nat.pow_lt_pow_right Nat.one_lt_two (by omega))
  · have leading : 2 ^ 52 + Double.unsigned bits % 2 ^ 52 < 2 ^ 53 := by omega
    rw [Nat.pow_add]
    apply Nat.mul_lt_mul_of_lt_of_le leading _ (Nat.two_pow_pos _)
    exact Nat.pow_le_pow_right Nat.two_pos shift

theorem Double.fits_value {bits : UInt64} (finite : Double.kind bits = .finite) :
    Fits Double.unitDigits (Double.value bits) := by
  have bounded := Double.magnitude_lt finite
  have within : 1074 < Double.unitDigits := by decide
  unfold Double.value
  dsimp only
  generalize 1074 = scale at within ⊢
  rw [Rat.mkRat_eq_div, Nat.pow_eq]
  apply Fits.of_quotient (Nat.two_pow_pos scale)
  · split
    · rw [Int.natAbs_neg, Int.natAbs_natCast]
      exact bounded
    · rw [Int.natAbs_natCast]
      exact bounded
  · exact Nat.pow_lt_pow_right Nat.one_lt_two within

theorem Operator.Yields.fits {operator : Operator} {value : Rat}
    (yields : operator.Yields left right value) (first : Fits m left) (second : Fits n right) :
    Fits (m + (powerBitLimit + n)) value := by
  have positive : 1 ≤ powerBitLimit := by decide
  cases yields with
  | add => exact (first.add second).mono (by omega)
  | subtract => exact (first.sub second).mono (by omega)
  | multiply => exact (first.mul second).mono (by omega)
  | divide _ nonzero => exact (first.div second).mono (by omega)
  | remainder _ nonzero => exact (first.remainder second nonzero).mono (by omega)
  | integralPower exponentWithin sizeWithin defined =>
      exact (Fits.zpow sizeWithin).mono (by omega)
  | fractionalPower fractional baseDouble exponentDouble finite result =>
      rw [← result]
      have within : Double.unitDigits ≤ powerBitLimit := by decide
      exact (Double.fits_value finite).mono (by omega)

def Lexeme.allowance : Lexeme → Nat
  | .number value => partSize value
  | _ => powerBitLimit

def allowance (lexemes : List Lexeme) : Nat :=
  (lexemes.map Lexeme.allowance).sum

theorem allowance_cons (lexeme : Lexeme) (lexemes : List Lexeme) :
    allowance (lexeme :: lexemes) = lexeme.allowance + allowance lexemes := by
  rw [allowance, List.map_cons, List.sum_cons]
  rfl

theorem allowance_append (front back : List Lexeme) :
    allowance (front ++ back) = allowance front + allowance back := by
  rw [allowance, List.map_append, List.sum_append]
  rfl

theorem Operates.allowance_eq {c : CodePoint} {lexeme : Lexeme} (operates : Operates c lexeme) :
    lexeme.allowance = powerBitLimit := by
  cases operates <;> rfl

theorem Joins.allowance_eq {symbol : Nonterminal} {sign : Lexeme} {operator : Operator}
    (joins : Joins symbol sign operator) : sign.allowance = powerBitLimit := by
  cases joins <;> rfl

theorem Derives.fits {symbol : Nonterminal} {lexemes : List Lexeme} {expr : Expr} {value : Rat}
    (derived : Derives symbol lexemes expr) (denotes : expr.Denotes value) :
    Fits (allowance lexemes) value := by
  induction derived generalizing value with
  | ofProduct only ih => exact ih denotes
  | sum first joins last firstIh lastIh =>
      cases denotes with
      | binary leftDenotes rightDenotes yields =>
          rw [allowance_append, allowance_cons, joins.allowance_eq]
          exact yields.fits (firstIh leftDenotes) (lastIh rightDenotes)
  | ofSigned only ih => exact ih denotes
  | product first joins last firstIh lastIh =>
      cases denotes with
      | binary leftDenotes rightDenotes yields =>
          rw [allowance_append, allowance_cons, joins.allowance_eq]
          exact yields.fits (firstIh leftDenotes) (lastIh rightDenotes)
  | negative signed ih =>
      cases denotes with
      | negated inner =>
          rw [allowance_cons]
          exact (ih inner).neg.mono (Nat.le_add_left _ _)
  | positive signed ih =>
      rw [allowance_cons]
      exact (ih denotes).mono (Nat.le_add_left _ _)
  | ofPower only ih => exact ih denotes
  | ofPrimary only ih => exact ih denotes
  | power first last firstIh lastIh =>
      cases denotes with
      | binary leftDenotes rightDenotes yields =>
          rw [allowance_append, allowance_cons]
          exact yields.fits (firstIh leftDenotes) (lastIh rightDenotes)
  | number given =>
      cases denotes
      exact fits_partSize given
  | parentheses inner ih =>
      rw [List.cons_append, allowance_cons, allowance_append]
      exact (ih denotes).mono (by omega)

theorem Literal.WellFormed.fits_reading {literal : Literal} (valid : literal.WellFormed) :
    Fits (4 * literal.text.length) literal.reading := by
  have digits : literal.whole.length + literal.decimals.length ≤ literal.text.length ∧
      literal.decimals.length + 1 ≤ literal.text.length := by
    have occupied := valid.occupied
    rcases literal with ⟨whole, _ | places⟩
    · have present : 0 < whole.length :=
        List.length_pos_iff.mpr (occupied.resolve_right fun ne => ne rfl)
      simp only [Literal.decimals, Literal.text, Option.getD_none, List.length_nil]
      omega
    · simp only [Literal.decimals, Literal.text, Option.getD_some, List.length_append,
        List.length_cons]
      omega
  have inBits (count : Nat) : 10 ^ count ≤ 2 ^ (4 * count) := by
    rw [Nat.pow_mul]
    exact Nat.pow_le_pow_left (by omega) count
  rw [← Literal.mkRat_eq_reading, Rat.mkRat_eq_div, Nat.pow_eq]
  apply Fits.of_quotient (Nat.pow_pos (by omega))
  · rw [Int.natAbs_natCast]
    have all : ∀ c ∈ literal.whole ++ literal.decimals, c.isDigit = true :=
      List.forall_mem_append.mpr ⟨valid.whole, valid.decimals⟩
    calc Numeral.value (literal.whole ++ literal.decimals)
        < 10 ^ (literal.whole ++ literal.decimals).length := Literal.value_lt all
      _ ≤ 10 ^ literal.text.length := by
          rw [List.length_append]
          exact Nat.pow_le_pow_right (by omega) digits.1
      _ ≤ 2 ^ (4 * literal.text.length) := inBits _
  · calc 10 ^ literal.decimals.length
        < 10 ^ literal.text.length := Nat.pow_lt_pow_right (by omega) digits.2
      _ ≤ 2 ^ (4 * literal.text.length) := inBits _

theorem Lexes.allowance_le {text : Text} {lexemes : List Lexeme} (lexed : Lexes text lexemes) :
    allowance lexemes ≤ powerBitLimit * text.length := by
  induction lexed with
  | done => exact Nat.le_refl 0
  | blank isBlank others ih =>
      rw [List.length_cons, Nat.mul_succ]
      omega
  | operator operates others ih =>
      have price : Lexeme.allowance _ = powerBitLimit := operates.allowance_eq
      rw [allowance_cons, List.length_cons, Nat.mul_succ, price]
      omega
  | @literal literal rest lexemes longest wholeWithin decimalsWithin others ih =>
      have size : partSize literal.reading ≤ 4 * literal.text.length :=
        partSize_le_iff.mpr longest.wellFormed.fits_reading
      have cheap : 4 * literal.text.length ≤ powerBitLimit * literal.text.length :=
        Nat.mul_le_mul_right _ (by decide)
      rw [allowance_cons, List.length_append, Nat.mul_add]
      change partSize literal.reading + allowance lexemes ≤ _
      omega

/-- The parts of a value have at most as many binary digits as the limit of a power grants to each
character of the text. Of the machine's powers nothing is used but that they are finite doubles. -/
theorem bitLength_of_evaluate {text : Text} {value : Rat} (evaluated : evaluate text = .ok value) :
    bitLength value.num.natAbs ≤ 65536 * text.length ∧
      bitLength value.den ≤ 65536 * text.length := by
  obtain ⟨lexemes, expr, lexed, derived, denotes⟩ := evaluate_eq_ok_iff.mp evaluated
  have fits : Fits (powerBitLimit * text.length) value :=
    (derived.fits denotes).mono lexed.allowance_le
  constructor
  · rw [bitLength_le_iff, Nat.pow_eq]
    exact fits.numerator
  · rw [bitLength_le_iff, Nat.pow_eq]
    exact fits.denominator

/-- Stacked and negative powers, a remainder and a quotient. -/
theorem bitLength_of_evaluate_at_powers :
    let text : Text := "(.5^-9*3)%7-2^9^2/3".text
    let value : Rat := -2417851639229258349412343 / 3
    evaluate text = .ok value ∧ bitLength value.num.natAbs ≤ 65536 * text.length ∧
      bitLength value.den ≤ 65536 * text.length := by
  intro text value
  have evaluated : evaluate text = .ok value := by decide +kernel
  exact ⟨evaluated, bitLength_of_evaluate evaluated⟩

end LineShell.Arithmetic
