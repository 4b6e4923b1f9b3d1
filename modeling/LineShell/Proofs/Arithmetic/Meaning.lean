import Mathlib.Data.Nat.Size
import Mathlib.Data.Rat.Floor
import LineShell.Arithmetic.Evaluation
import LineShell.Proofs.Arithmetic.Grammar
import LineShell.Proofs.Arithmetic.Lexing

/-!
What expressions mean, apart from the order in which they are evaluated: the numbers that operators
yield, where they yield any, and the number that an expression denotes. Evaluation accepts exactly
the texts of the grammar whose expressions denote a number, and calls no text of the grammar
malformed.
-/

namespace LineShell.Arithmetic

def towardZero (value : Rat) : Int :=
  if 0 ≤ value then ⌊value⌋ else ⌈value⌉

def partSize (value : Rat) : Nat :=
  max value.num.natAbs.size value.den.size

/-- Holds of two operands and the number that an operator yields for them. -/
inductive Operator.Yields : Operator → Rat → Rat → Rat → Prop
  | add (left right : Rat) : Yields .add left right (left + right)
  | subtract (left right : Rat) : Yields .subtract left right (left - right)
  | multiply (left right : Rat) : Yields .multiply left right (left * right)
  | divide (left : Rat) {right : Rat} (nonzero : right ≠ 0) :
      Yields .divide left right (left / right)
  | remainder (left : Rat) {right : Rat} (nonzero : right ≠ 0) :
      Yields .remainder left right (left - right * towardZero (left / right))
  | integralPower {base : Rat} {exponent : Int} (exponentWithin : exponent.natAbs ≤ exponentLimit)
      (sizeWithin : exponent.natAbs * partSize base ≤ powerBitLimit)
      (defined : exponent < 0 → base ≠ 0) : Yields .power base exponent (base ^ exponent)
  | fractionalPower {base exponent value : Rat} {baseBits exponentBits : UInt64}
      (fractional : exponent.den ≠ 1) (baseDouble : Double.ofRat? base = some baseBits)
      (exponentDouble : Double.ofRat? exponent = some exponentBits)
      (finite : Double.kind (Double.power baseBits exponentBits) = .finite)
      (result : Double.value (Double.power baseBits exponentBits) = value) :
      Yields .power base exponent value

/-- Holds of an expression and the number that it stands for. -/
inductive Expr.Denotes : Expr → Rat → Prop
  | number (value : Rat) : Denotes (.number value) value
  | negated {operand : Expr} {value : Rat} (inner : Denotes operand value) :
      Denotes (.negated operand) (-value)
  | binary {operator : Operator} {left right : Expr} {first second value : Rat}
      (leftDenotes : Denotes left first) (rightDenotes : Denotes right second)
      (yields : operator.Yields first second value) : Denotes (.binary operator left right) value

theorem bitLength_eq_size (n : Nat) : bitLength n = n.size := by
  refine Nat.le_antisymm ?_ ?_
  · rw [bitLength_le_iff, Nat.pow_eq]
    exact Nat.lt_size_self n
  · rw [Nat.size_le, ← Nat.pow_eq, ← bitLength_le_iff]

theorem truncate_eq_towardZero (value : Rat) : truncate value = towardZero value := by
  rw [truncate, towardZero]
  split
  · next nonnegative =>
      rw [Rat.floor_def']
      exact Int.tdiv_eq_ediv_of_nonneg (Rat.num_nonneg.mpr nonnegative)
  · next negative =>
      have oppositeNonneg : 0 ≤ -value.num := by
        have numNegative := Rat.num_neg.mpr (not_le.mp negative)
        omega
      rw [Rat.ceil_def', ← Int.tdiv_eq_ediv_of_nonneg oppositeNonneg, Int.neg_tdiv, neg_neg]

theorem unlessZero_eq_ok_iff (failure : Failure) (right result : Rat) {value : Rat} :
    (if right.num = 0 then Except.error failure else .ok result) = .ok value ↔
      right ≠ 0 ∧ value = result := by
  split
  · next zero =>
      rw [Rat.num_eq_zero] at zero
      simp [zero]
  · next nonzero =>
      rw [Rat.num_eq_zero] at nonzero
      simp [nonzero, eq_comm]

theorem quotientOf_eq_ok_iff {left right value : Rat} :
    quotientOf left right = .ok value ↔ right ≠ 0 ∧ value = left / right :=
  unlessZero_eq_ok_iff .divisionByZero right (left / right)

theorem remainderOf_eq_ok_iff {left right value : Rat} :
    remainderOf left right = .ok value ↔
      right ≠ 0 ∧ value = left - right * towardZero (left / right) := by
  rw [← truncate_eq_towardZero]
  exact unlessZero_eq_ok_iff .remainderByZero right (left - right * truncate (left / right))

theorem zpow_of_negative (base : Rat) {exponent : Int} (negative : exponent < 0) :
    base ^ exponent = Rat.pow (Rat.inv base) exponent.natAbs := by
  have opposite : exponent = -(exponent.natAbs : Int) := by omega
  rw [opposite, zpow_neg, zpow_natCast, ← inv_pow, Int.natAbs_neg, Int.natAbs_natCast]
  rfl

theorem zpow_of_nonnegative (base : Rat) {exponent : Int} (nonnegative : ¬exponent < 0) :
    base ^ exponent = Rat.pow base exponent.natAbs := by
  have same : exponent = (exponent.natAbs : Int) := by omega
  rw [same, zpow_natCast, Int.natAbs_natCast]
  rfl

theorem integralPower_eq_ok_iff {base : Rat} {exponent : Int} {value : Rat} :
    integralPower base exponent = .ok value ↔
      exponent.natAbs ≤ exponentLimit ∧ exponent.natAbs * partSize base ≤ powerBitLimit ∧
        (exponent < 0 → base ≠ 0) ∧ value = base ^ exponent := by
  have size : powerBits base exponent = exponent.natAbs * partSize base := by
    rw [powerBits, partSize, bitLength_eq_size, bitLength_eq_size]
  rw [integralPower, size]
  split
  · next beyond =>
      constructor
      · intro found
        split at found <;> cases found
      · exact fun within => absurd beyond (Nat.not_lt.mpr within.1)
  · next exponentWithin =>
      rw [Nat.not_lt] at exponentWithin
      split
      · next beyond =>
          constructor
          · intro found
            cases found
          · exact fun within => absurd beyond (Nat.not_lt.mpr within.2.1)
      · next sizeWithin =>
          rw [Nat.not_lt] at sizeWithin
          split
          · next negative =>
              rw [zpow_of_negative base negative]
              split
              · next zero =>
                  rw [Rat.num_eq_zero] at zero
                  simp [zero, negative]
              · next nonzero =>
                  rw [Rat.num_eq_zero] at nonzero
                  simp [exponentWithin, sizeWithin, nonzero, eq_comm]
          · next nonnegative =>
              rw [zpow_of_nonnegative base nonnegative]
              simp [exponentWithin, sizeWithin, nonnegative, eq_comm]

theorem fractionalPower_eq_ok_iff {base exponent value : Rat} :
    fractionalPower base exponent = .ok value ↔
      ∃ baseBits exponentBits, Double.ofRat? base = some baseBits ∧
        Double.ofRat? exponent = some exponentBits ∧
        Double.kind (Double.power baseBits exponentBits) = .finite ∧
        Double.value (Double.power baseBits exponentBits) = value := by
  constructor
  · intro found
    unfold fractionalPower at found
    split at found
    · next baseBits exponentBits baseDouble exponentDouble =>
        dsimp only at found
        split at found
        · next finite =>
            exact ⟨baseBits, exponentBits, baseDouble, exponentDouble, finite, Except.ok.inj found⟩
        · cases found
        · cases found
    · cases found
  · rintro ⟨baseBits, exponentBits, baseDouble, exponentDouble, finite, result⟩
    unfold fractionalPower
    simp only [baseDouble, exponentDouble, finite, result]

theorem powerOf_eq_ok_iff {base exponent value : Rat} :
    powerOf base exponent = .ok value ↔ Operator.Yields .power base exponent value := by
  rw [powerOf]
  split
  · next integral =>
      obtain ⟨exponent, rfl⟩ : ∃ whole : Int, exponent = whole :=
        ⟨exponent.num, (Rat.den_eq_one_iff exponent |>.mp integral).symm⟩
      rw [Rat.num_intCast, integralPower_eq_ok_iff]
      constructor
      · rintro ⟨exponentWithin, sizeWithin, defined, rfl⟩
        exact .integralPower exponentWithin sizeWithin defined
      · intro yields
        generalize asRat : (exponent : Rat) = given at yields
        cases yields with
        | integralPower exponentWithin sizeWithin defined =>
            obtain rfl := Rat.intCast_injective asRat
            exact ⟨exponentWithin, sizeWithin, defined, rfl⟩
        | fractionalPower fractional _ _ _ _ =>
            subst asRat
            exact absurd (Rat.den_intCast exponent) fractional
  · next fractional =>
      rw [fractionalPower_eq_ok_iff]
      constructor
      · rintro ⟨baseBits, exponentBits, baseDouble, exponentDouble, finite, result⟩
        exact .fractionalPower fractional baseDouble exponentDouble finite result
      · intro yields
        cases yields with
        | integralPower _ _ _ => exact absurd (Rat.den_intCast _) fractional
        | fractionalPower _ baseDouble exponentDouble finite result =>
            exact ⟨_, _, baseDouble, exponentDouble, finite, result⟩

theorem Operator.apply_eq_ok_iff {operator : Operator} {left right value : Rat} :
    operator.apply left right = .ok value ↔ operator.Yields left right value := by
  cases operator with
  | add =>
      constructor
      · intro found
        cases found
        exact .add left right
      · intro yields
        cases yields
        rfl
  | subtract =>
      constructor
      · intro found
        cases found
        exact .subtract left right
      · intro yields
        cases yields
        rfl
  | multiply =>
      constructor
      · intro found
        cases found
        exact .multiply left right
      · intro yields
        cases yields
        rfl
  | divide =>
      rw [Operator.apply, quotientOf_eq_ok_iff]
      constructor
      · rintro ⟨nonzero, rfl⟩
        exact .divide left nonzero
      · intro yields
        cases yields with
        | divide _ nonzero => exact ⟨nonzero, rfl⟩
  | remainder =>
      rw [Operator.apply, remainderOf_eq_ok_iff]
      constructor
      · rintro ⟨nonzero, rfl⟩
        exact .remainder left nonzero
      · intro yields
        cases yields with
        | remainder _ nonzero => exact ⟨nonzero, rfl⟩
  | power => exact powerOf_eq_ok_iff

theorem Expr.value_eq_ok_iff {expr : Expr} {value : Rat} :
    expr.value = .ok value ↔ expr.Denotes value := by
  induction expr generalizing value with
  | number given =>
      constructor
      · intro found
        cases found
        exact .number given
      · intro denotes
        cases denotes
        rfl
  | negated operand ih =>
      rw [Expr.value]
      constructor
      · intro found
        split at found
        · next inner evaluated =>
            cases found
            exact .negated (ih.mp evaluated)
        · cases found
      · intro denotes
        cases denotes with
        | negated inner => rw [ih.mpr inner]
  | binary operator left right leftIh rightIh =>
      rw [Expr.value]
      constructor
      · intro found
        split at found
        · next first firstFound =>
            split at found
            · next second secondFound =>
                exact .binary (leftIh.mp firstFound) (rightIh.mp secondFound)
                  (Operator.apply_eq_ok_iff.mp found)
            · cases found
        · cases found
      · intro denotes
        cases denotes with
        | binary leftDenotes rightDenotes yields =>
            rw [leftIh.mpr leftDenotes, rightIh.mpr rightDenotes]
            exact Operator.apply_eq_ok_iff.mpr yields
  | fault cause =>
      constructor
      · intro found
        cases found
      · intro denotes
        cases denotes
  | cutShort inner cause ih =>
      rw [Expr.value]
      constructor
      · intro found
        split at found <;> cases found
      · intro denotes
        cases denotes

theorem Expr.Denotes.faultless {expr : Expr} {value : Rat} (denotes : expr.Denotes value) :
    expr.Faultless := by
  induction denotes with
  | number value => exact trivial
  | negated _ ih => exact ih
  | binary _ _ _ leftIh rightIh => exact ⟨leftIh, rightIh⟩

theorem integralPower_ne_malformed (base : Rat) (exponent : Int) (fault : Fault) :
    integralPower base exponent ≠ .error (.malformed fault) := by
  intro found
  unfold integralPower at found
  split at found
  · split at found <;> cases found
  · split at found
    · cases found
    · split at found
      · split at found <;> cases found
      · cases found

theorem fractionalPower_ne_malformed (base exponent : Rat) (fault : Fault) :
    fractionalPower base exponent ≠ .error (.malformed fault) := by
  intro found
  unfold fractionalPower at found
  split at found
  · dsimp only at found
    split at found
    · cases found
    · split at found <;> cases found
    · cases found
  · cases found

theorem Operator.apply_ne_malformed (operator : Operator) (left right : Rat) (fault : Fault) :
    operator.apply left right ≠ .error (.malformed fault) := by
  intro found
  cases operator with
  | add => cases found
  | subtract => cases found
  | multiply => cases found
  | divide =>
      rw [Operator.apply, quotientOf] at found
      split at found <;> cases found
  | remainder =>
      rw [Operator.apply, remainderOf] at found
      split at found <;> cases found
  | power =>
      rw [Operator.apply, powerOf] at found
      split at found
      · exact integralPower_ne_malformed _ _ fault found
      · exact fractionalPower_ne_malformed _ _ fault found

theorem Expr.not_faultless_of_malformed {expr : Expr} {fault : Fault}
    (found : expr.value = .error (.malformed fault)) : ¬expr.Faultless := by
  intro faultless
  induction expr with
  | number given => cases found
  | negated operand ih =>
      rw [Expr.value] at found
      split at found
      · cases found
      · next failure failed =>
          cases found
          exact ih failed faultless
  | binary operator left right leftIh rightIh =>
      rw [Expr.value] at found
      split at found
      · next first _ =>
          split at found
          · next second _ => exact operator.apply_ne_malformed first second fault found
          · next failure failed =>
              cases found
              exact rightIh failed faultless.2
      · next failure failed =>
          cases found
          exact leftIh failed faultless.1
  | fault cause => exact faultless
  | cutShort inner cause ih => exact faultless

/-- A text has a value exactly if it is written in the grammar and its expression denotes that
value; a text that is found malformed is not written in the grammar, whatever its numbers. -/
theorem evaluate_accepts_grammar (text : Text) :
    (∀ value, evaluate text = .ok value ↔
      ∃ lexemes expr, Lexes text lexemes ∧ Derives .sum lexemes expr ∧ expr.Denotes value) ∧
    ∀ fault, evaluate text = .error (.malformed fault) →
      ¬∃ lexemes expr, Lexes text lexemes ∧ Derives .sum lexemes expr := by
  constructor
  · intro value
    constructor
    · intro found
      unfold evaluate at found
      split at found
      · next tokens read =>
          have denotes := Expr.value_eq_ok_iff.mp found
          have derived := Expr.derives_iff_ofTokens.mpr ⟨rfl, denotes.faultless⟩
          exact ⟨_, _, Token.lexes_iff.mpr ⟨tokens, read, rfl⟩, derived, denotes⟩
      · cases found
    · rintro ⟨lexemes, expr, lexed, derived, denotes⟩
      obtain ⟨tokens, read, rfl⟩ := Token.lexes_iff.mp lexed
      obtain ⟨spelled, -⟩ := Expr.derives_iff_ofTokens.mp derived
      unfold evaluate
      rw [read]
      dsimp only
      rw [spelled]
      exact Expr.value_eq_ok_iff.mpr denotes
  · rintro fault found ⟨lexemes, expr, lexed, derived⟩
    obtain ⟨tokens, read, rfl⟩ := Token.lexes_iff.mp lexed
    obtain ⟨spelled, faultless⟩ := Expr.derives_iff_ofTokens.mp derived
    unfold evaluate at found
    rw [read] at found
    dsimp only at found
    rw [spelled] at found
    exact Expr.not_faultless_of_malformed found faultless

example : evaluate ['-', '2', '^', '2', ' ', '-', '3', '-', '1'] = .ok (-8) := by decide +kernel

end LineShell.Arithmetic
