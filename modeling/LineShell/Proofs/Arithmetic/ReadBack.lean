import Mathlib.Data.List.DropRight
import LineShell.Proofs.Arithmetic.Nesting
import LineShell.Proofs.Arithmetic.Rounding

/-!
Numerals read back. A multiple of the last place is denoted by one decimal numeral without
superfluous zeros. The numeral of any number is the one that denotes its rounded value, and
evaluating it gives that value again, so a numeral that was written is written unchanged.
-/

namespace LineShell

namespace Numeral

theorem digits_concat {n d : Nat} (positive : 0 < n) (small : d < 10) :
    digits (10 * n + d) = digits n ++ [.char (Nat.digitChar d)] := by
  have quotient : (10 * n + d) / 10 = n := by omega
  have left : (10 * n + d) % 10 = d := by omega
  rw [digits, Nat.toDigits_of_base_le (by omega) (by omega), quotient, left, List.map_append]
  rfl

theorem digits_value {text : Text} (all : ∀ c ∈ text, c.isDigit = true) (present : text ≠ [])
    (noZero : text.head? ≠ some (.char '0')) : digits (value text) = text := by
  -- Division by ten takes off the last digit, so the induction is from the end.
  induction text using List.reverseRecOn with
  | nil => exact absurd rfl present
  | append_singleton front last ih =>
      obtain ⟨small, spelled⟩ := Arithmetic.Literal.value_singleton (all last (by simp))
      cases front with
      | nil =>
          rw [List.nil_append, digits, Nat.toDigits_of_lt_base small, List.map_singleton, spelled]
      | cons c front =>
          have same : digits (value (c :: front)) = c :: front := by
            apply ih
            · intro d member
              exact all d (List.mem_append_left [last] member)
            · exact List.cons_ne_nil c front
            · exact noZero
          have positive : 0 < value (c :: front) := by
            apply Nat.pos_of_ne_zero
            intro zero
            rw [zero] at same
            cases same
            exact noZero rfl
          rw [Arithmetic.Literal.value_append, List.length_singleton, Nat.pow_one,
            digits_concat positive small, same, spelled]

theorem head?_digits {n : Nat} (positive : 0 < n) : (digits n).head? ≠ some (.char '0') := by
  induction n using Nat.strong_induction_on with
  | _ n ih =>
      by_cases small : n < 10
      · rw [digits, Nat.toDigits_of_lt_base small]
        intro zero
        have code := congrArg Char.toNat (CodePoint.char_inj.mp (Option.some_inj.mp zero))
        rw [Nat.toNat_digitChar_of_lt_ten small] at code
        have zeroCode : '0'.toNat = 48 := rfl
        omega
      · have front := ih (n / 10) (by omega) (by omega)
        obtain ⟨c, others, starts⟩ := List.exists_cons_of_ne_nil (digits_ne_nil (n / 10))
        have parts : n = 10 * (n / 10) + n % 10 := by omega
        rw [parts, digits_concat (by omega) (by omega)]
        rw [starts] at front ⊢
        exact front

theorem value_zeros (count : Nat) : value (List.replicate count (.char '0')) = 0 := by
  rw [value, List.map_replicate]
  exact Nat.ofDigitChars_replicate_zero

theorem eq_and_eq_of_mul_add {unit front part front' part' : Nat} (small : part < unit)
    (small' : part' < unit) (same : unit * front + part = unit * front' + part') :
    front = front' ∧ part = part' := by
  have positive : 0 < unit := by omega
  have fronts : front = front' := by
    have quotients := congrArg (· / unit) same
    rw [Nat.mul_add_div positive, Nat.mul_add_div positive, Nat.div_eq_of_lt small,
      Nat.div_eq_of_lt small'] at quotients
    exact quotients
  rw [fronts] at same
  exact ⟨fronts, Nat.add_left_cancel same⟩

theorem eq_of_value_eq {first second : Text} (firstDigits : ∀ c ∈ first, c.isDigit = true)
    (secondDigits : ∀ c ∈ second, c.isDigit = true) (lengths : first.length = second.length)
    (values : value first = value second) : first = second := by
  induction first generalizing second with
  | nil => exact (List.length_eq_zero_iff.mp lengths.symm).symm
  | cons c first ih =>
      cases second with
      | nil => cases lengths
      | cons d second =>
          have tails : first.length = second.length := Nat.succ.inj lengths
          obtain ⟨firstHead, firstTail⟩ := List.forall_mem_cons.mp firstDigits
          obtain ⟨secondHead, secondTail⟩ := List.forall_mem_cons.mp secondDigits
          have firstSmall := Arithmetic.Literal.value_lt firstTail
          have secondSmall := Arithmetic.Literal.value_lt secondTail
          have leads := Arithmetic.Literal.value_append [c] first
          have leads' := Arithmetic.Literal.value_append [d] second
          rw [List.singleton_append] at leads leads'
          rw [leads, leads', ← tails] at values
          rw [← tails] at secondSmall
          obtain ⟨heads, others⟩ := eq_and_eq_of_mul_add firstSmall secondSmall values
          rw [ih firstTail secondTail tails others]
          rw [← (Arithmetic.Literal.value_singleton firstHead).2, heads,
            (Arithmetic.Literal.value_singleton secondHead).2]

end Numeral

namespace Arithmetic

open Numeral (value digits)

namespace Literal

/-- Holds of a literal with no zero in front of its whole digits or behind its decimal ones, with at
least one and at most so many decimal digits as numerals have places, if it has a point. -/
structure Canonical (literal : Literal) : Prop where
  wellFormed : literal.WellFormed
  present : literal.whole ≠ []
  noLeadingZero : literal.whole.head? = some (.char '0') → literal.whole = [.char '0']
  decimals : ∀ places ∈ literal.places,
    places ≠ [] ∧ places.length ≤ Decimal.places ∧ places.getLast? ≠ some (.char '0')

def padded (literal : Literal) : Text :=
  literal.decimals ++ List.replicate (Decimal.places - literal.decimals.length) (.char '0')

variable {literal : Literal}

theorem Canonical.length_decimals (canonical : literal.Canonical) :
    literal.decimals.length ≤ Decimal.places := by
  obtain ⟨whole, _ | places⟩ := literal
  · exact Nat.zero_le _
  · exact (canonical.decimals places rfl).2.1

theorem Canonical.digits_whole (canonical : literal.Canonical) :
    digits (value literal.whole) = literal.whole := by
  by_cases zero : literal.whole.head? = some (.char '0')
  · rw [canonical.noLeadingZero zero]
    rfl
  · exact Numeral.digits_value canonical.wellFormed.whole canonical.present zero

theorem value_padded (literal : Literal) :
    value literal.padded =
      10 ^ (Decimal.places - literal.decimals.length) * value literal.decimals := by
  rw [padded, value_append, Numeral.value_zeros, List.length_replicate, Nat.add_zero]

theorem Canonical.length_padded (canonical : literal.Canonical) :
    literal.padded.length = Decimal.places := by
  have within := canonical.length_decimals
  rw [padded, List.length_append, List.length_replicate]
  omega

theorem Canonical.isDigit_padded (canonical : literal.Canonical) :
    ∀ c ∈ literal.padded, c.isDigit = true := by
  intro c member
  rcases List.mem_append.mp member with digit | zero
  · exact canonical.wellFormed.decimals c digit
  · rw [List.eq_of_mem_replicate zero]
    rfl

theorem Canonical.value_padded_lt (canonical : literal.Canonical) :
    value literal.padded < Decimal.scale := by
  have small := value_lt canonical.isDigit_padded
  rw [canonical.length_padded] at small
  exact small

theorem Canonical.reading_eq (canonical : literal.Canonical) :
    literal.reading = Decimal.ofUnits
      ((value literal.whole * Decimal.scale + value literal.padded : Nat) : Int) := by
  have within := canonical.length_decimals
  have split : Decimal.scale = 10 ^ (Decimal.places - literal.decimals.length) *
      10 ^ literal.decimals.length := by
    rw [← Nat.pow_add, Nat.sub_add_cancel within]
    rfl
  have padding : (10 ^ (Decimal.places - literal.decimals.length) : Rat) ≠ 0 := by positivity
  rw [reading, Decimal.ofUnits, value_padded, Int.cast_natCast, Nat.cast_add, add_div,
    Nat.cast_mul, mul_div_cancel_right₀ _ Decimal.scale_pos.ne', split]
  push_cast
  rw [mul_div_mul_left _ _ padding]

theorem WellFormed.floor_reading (valid : literal.WellFormed) :
    ⌊literal.reading⌋₊ = value literal.whole := by
  have nonnegative : (0 : Rat) ≤ literal.reading := by
    rw [reading]
    positivity
  have power : (0 : Rat) < 10 ^ literal.decimals.length := by positivity
  have small : (value literal.decimals : Rat) < 10 ^ literal.decimals.length := by
    exact_mod_cast value_lt valid.decimals
  have below : (value literal.decimals : Rat) / 10 ^ literal.decimals.length < 1 :=
    (div_lt_one power).mpr small
  have above : (0 : Rat) ≤ (value literal.decimals : Rat) / 10 ^ literal.decimals.length := by
    positivity
  rw [Nat.floor_eq_iff nonnegative, reading]
  constructor
  · linarith
  · linarith

theorem Canonical.decimals_eq (canonical : literal.Canonical) :
    literal.padded.rdropWhile (· = .char '0') = literal.decimals := by
  have last : literal.decimals.getLast? ≠ some (.char '0') := by
    obtain ⟨whole, _ | places⟩ := literal
    · exact nofun
    · exact (canonical.decimals places rfl).2.2
  have kept : literal.decimals.rdropWhile (· = .char '0') = literal.decimals := by
    rw [List.rdropWhile_eq_self_iff]
    intro present zero
    rw [List.getLast?_eq_some_getLast present] at last
    exact last (congrArg some (of_decide_eq_true zero))
  have zeros : ∀ c ∈ List.replicate (Decimal.places - literal.decimals.length) (CodePoint.char '0'),
      decide (c = .char '0') = true := by
    intro c member
    exact decide_eq_true (List.eq_of_mem_replicate member)
  rw [padded, List.rdropWhile, List.reverse_append, List.reverse_replicate,
    List.dropWhile_append_of_pos zeros]
  exact kept

theorem Canonical.unique {first second : Literal} (one : first.Canonical)
    (other : second.Canonical) (same : first.reading = second.reading) : first = second := by
  rw [one.reading_eq, other.reading_eq, Decimal.ofUnits_inj, Int.ofNat_inj,
    Nat.mul_comm (value first.whole), Nat.mul_comm (value second.whole)] at same
  obtain ⟨wholeValues, paddedValues⟩ :=
    Numeral.eq_and_eq_of_mul_add one.value_padded_lt other.value_padded_lt same
  have wholes : first.whole = second.whole := by
    rw [← one.digits_whole, wholeValues, other.digits_whole]
  have paddeds : first.padded = second.padded := by
    apply Numeral.eq_of_value_eq one.isDigit_padded other.isDigit_padded _ paddedValues
    rw [one.length_padded, other.length_padded]
  have decimals : first.decimals = second.decimals := by
    rw [← one.decimals_eq, paddeds, other.decimals_eq]
  obtain ⟨whole, places⟩ := first
  obtain ⟨whole', places'⟩ := second
  cases wholes
  cases places with
  | none =>
      cases places' with
      | none => rfl
      | some places' => exact absurd decimals.symm (other.decimals places' rfl).1
  | some places =>
      cases places' with
      | none => exact absurd decimals (one.decimals places rfl).1
      | some places' =>
          cases decimals
          rfl

end Literal

namespace Decimal

def allPlaces (part : Nat) : Text :=
  List.replicate (places - (digits part).length) (.char '0') ++ digits part

theorem fractionDigits_eq (part : Nat) :
    fractionDigits part = (allPlaces part).rdropWhile (· = .char '0') :=
  rfl

theorem length_allPlaces {part : Nat} (small : part < scale) :
    (allPlaces part).length = places := by
  have width : (digits part).length ≤ places := by
    rw [digits, List.length_map]
    exact (Nat.length_toDigits_le_iff (by omega) (by decide)).mpr small
  rw [allPlaces, List.length_append, List.length_replicate]
  omega

theorem value_allPlaces (part : Nat) : value (allPlaces part) = part := by
  rw [allPlaces, Literal.value_append, Numeral.value_zeros, Nat.mul_zero, Nat.zero_add,
    Numeral.value_digits]

theorem getLast?_fractionDigits (part : Nat) :
    (fractionDigits part).getLast? ≠ some (.char '0') := by
  rw [fractionDigits_eq]
  intro zero
  have present : (allPlaces part).rdropWhile (· = .char '0') ≠ [] := by
    intro nothing
    rw [nothing] at zero
    cases zero
  have last := List.rdropWhile_last_not (fun c : CodePoint => decide (c = .char '0'))
    (allPlaces part) present
  rw [List.getLast?_eq_some_getLast present] at zero
  exact last (decide_eq_true (Option.some_inj.mp zero))

theorem fractionDigits_append_zeros {part : Nat} (small : part < scale) :
    (fractionDigits part).length ≤ places ∧
      fractionDigits part ++ List.replicate (places - (fractionDigits part).length) (.char '0') =
        allPlaces part := by
  have parts := List.rdropWhile_append_rtakeWhile (p := fun c : CodePoint => decide (c = .char '0'))
    (l := allPlaces part)
  rw [← fractionDigits_eq] at parts
  have total := congrArg List.length parts
  rw [List.length_append, length_allPlaces small] at total
  have dropped : (allPlaces part).rtakeWhile (· = .char '0') =
      List.replicate (places - (fractionDigits part).length) (.char '0') := by
    rw [List.eq_replicate_iff]
    constructor
    · omega
    · intro c member
      have zero := List.mem_rtakeWhile_imp (p := fun d : CodePoint => decide (d = .char '0')) member
      exact of_decide_eq_true zero
  rw [dropped] at parts
  exact ⟨by omega, parts⟩

def literalOf (size : Nat) : Literal :=
  ⟨digits (size / scale),
    if size % scale = 0 then none else some (fractionDigits (size % scale))⟩

theorem text_literalOf (size : Nat) :
    (literalOf size).text = digits (size / scale) ++
      (if size % scale = 0 then [] else .char '.' :: fractionDigits (size % scale)) := by
  rw [literalOf, Literal.text]
  by_cases whole : size % scale = 0
  · simp only [if_pos whole, List.append_nil]
  · simp only [if_neg whole]

theorem value_padded_literalOf (size : Nat) : value (literalOf size).padded = size % scale := by
  by_cases whole : size % scale = 0
  · rw [whole, Literal.value_padded, literalOf, if_pos whole]
    rfl
  · have filled := (fractionDigits_append_zeros (Nat.mod_lt size (by decide))).2
    have shape : (literalOf size).padded = allPlaces (size % scale) := by
      rw [Literal.padded, Literal.decimals, literalOf, if_neg whole]
      exact filled
    rw [shape, value_allPlaces]

theorem canonical_literalOf (size : Nat) : (literalOf size).Canonical := by
  have present : (literalOf size).whole ≠ [] := Numeral.digits_ne_nil _
  constructor
  · constructor
    · intro c member
      exact Numeral.isDigit_of_mem_digits member
    · intro c member
      rw [Literal.decimals, literalOf] at member
      split at member
      · cases member
      · exact isDigit_of_mem_fractionDigits member
    · exact Or.inl present
  · exact present
  · intro zero
    by_cases positive : 0 < size / scale
    · exact absurd zero (Numeral.head?_digits positive)
    · have nothing : size / scale = 0 := Nat.eq_zero_of_not_pos positive
      rw [literalOf, nothing]
      rfl
  · intro found isPlaces
    rw [literalOf] at isPlaces
    split at isPlaces
    · cases isPlaces
    · next broken =>
        cases isPlaces
        obtain ⟨within, spelled⟩ := fractionDigits_append_zeros (Nat.mod_lt size (by decide))
        refine ⟨fun nothing => broken ?_, within, getLast?_fractionDigits _⟩
        rw [← value_allPlaces (size % scale), ← spelled, nothing]
        rfl

theorem reading_literalOf (size : Nat) : (literalOf size).reading = ofUnits size := by
  have spelled : value (literalOf size).whole = size / scale := Numeral.value_digits _
  rw [(canonical_literalOf size).reading_eq, value_padded_literalOf, spelled, Nat.div_add_mod']

/-- Holds of a text that denotes a number by a sign, only if it is negative, and a literal without
superfluous zeros. -/
def IsNumeralOf (text : Text) (number : Rat) : Prop :=
  ∃ literal : Literal, literal.Canonical ∧ literal.reading = |number| ∧
    text = (if number < 0 then [.char '-'] else []) ++ literal.text

theorem IsNumeralOf.unique {first second : Text} {number : Rat} (one : IsNumeralOf first number)
    (other : IsNumeralOf second number) : first = second := by
  obtain ⟨literal, canonical, reading, rfl⟩ := one
  obtain ⟨literal', canonical', reading', rfl⟩ := other
  rw [canonical.unique canonical' (reading.trans reading'.symm)]

theorem IsNumeralOf.evaluate_eq {text : Text} {number : Rat} (isNumeral : IsNumeralOf text number)
    (within : (digits ⌊|number|⌋₊).length ≤ Numeral.digitLimit) : evaluate text = .ok number := by
  obtain ⟨literal, canonical, reading, rfl⟩ := isNumeral
  rw [← reading, canonical.wellFormed.floor_reading, canonical.digits_whole] at within
  have placesWithin : literal.decimals.length ≤ Numeral.digitLimit :=
    canonical.length_decimals.trans (by decide)
  have stops : literal.Stops [] := nofun
  have lexed : Lexes (literal.text ++ []) [.number literal.reading] :=
    .literal (Literal.longestAt_of_stops canonical.wellFormed stops) within placesWithin .done
  rw [List.append_nil] at lexed
  have power : Derives .power [.number literal.reading] (.number literal.reading) :=
    .ofPrimary (.number _)
  rw [evaluate_eq_ok_iff]
  by_cases negative : number < 0
  · have opposite : number = -literal.reading := by rw [reading, abs_of_neg negative, neg_neg]
    rw [if_pos negative, opposite]
    refine ⟨.minus :: [.number literal.reading], .negated (.number literal.reading), ?_, ?_, ?_⟩
    · exact .operator .minus lexed
    · exact .ofProduct (.ofSigned (.negative (.ofPower power)))
    · exact .negated (.number _)
  · have same : number = literal.reading := by
      rw [reading, abs_of_nonneg (not_lt.mp negative)]
    rw [if_neg negative, same]
    exact ⟨_, _, lexed, .ofProduct (.ofSigned (.ofPower power)), .number _⟩

theorem ofUnits_neg_iff {units : Int} : ofUnits units < 0 ↔ units < 0 := by
  rw [ofUnits, div_lt_iff₀ scale_pos, zero_mul, Int.cast_lt_zero]

theorem abs_ofUnits (units : Int) : |ofUnits units| = ofUnits units.natAbs := by
  rw [ofUnits, ofUnits, abs_div, abs_of_pos scale_pos, ← Int.cast_abs, Int.abs_eq_natAbs]

theorem floor_ofUnits (size : Nat) : ⌊ofUnits size⌋₊ = size / scale := by
  rw [← reading_literalOf, (canonical_literalOf size).wellFormed.floor_reading]
  exact Numeral.value_digits _

def numeralOf (units : Int) : Text :=
  (if units < 0 then [.char '-'] else []) ++ (literalOf units.natAbs).text

theorem isNumeralOf_numeralOf (units : Int) : IsNumeralOf (numeralOf units) (ofUnits units) := by
  refine ⟨literalOf units.natAbs, canonical_literalOf _, ?_, ?_⟩
  · rw [reading_literalOf, abs_ofUnits]
  · simp only [ofUnits_neg_iff]
    rfl

theorem isNumeralOf_iff {text : Text} {units : Int} :
    IsNumeralOf text (ofUnits units) ↔ text = numeralOf units := by
  constructor
  · intro isNumeral
    exact isNumeral.unique (isNumeralOf_numeralOf units)
  · intro same
    rw [same]
    exact isNumeralOf_numeralOf units

theorem natAbs_signedUnits (value : Rat) : (signedUnits value).natAbs = units value := by
  rw [signedUnits]
  split
  · rw [Int.natAbs_neg, Int.natAbs_natCast]
  · rw [Int.natAbs_natCast]

theorem signedUnits_neg_iff {value : Rat} :
    signedUnits value < 0 ↔ value.num < 0 ∧ units value ≠ 0 := by
  rw [Rat.num_neg, signedUnits]
  split
  · next negative =>
      rw [and_iff_right negative]
      omega
  · next nonnegative =>
      constructor
      · intro below
        omega
      · intro below
        exact absurd below.1 nonnegative

/-- The numeral of a number is that of its rounded value, if that has not too many whole digits. -/
theorem ofRat?_eq (value : Rat) :
    ofRat? value =
      if (digits ⌊|ofUnits (signedUnits value)|⌋₊).length ≤ Numeral.digitLimit then
        some (numeralOf (signedUnits value))
      else none := by
  have sign : (value.num < 0 && units value ≠ 0) = decide (signedUnits value < 0) := by
    rw [← Bool.decide_and]
    exact decide_eq_decide.mpr signedUnits_neg_iff.symm
  rw [abs_ofUnits, natAbs_signedUnits, floor_ofUnits, numeralOf, natAbs_signedUnits,
    text_literalOf]
  unfold ofRat? Numeral.ofNat?
  dsimp only
  by_cases within : (digits (units value / scale)).length ≤ Numeral.digitLimit
  · rw [if_pos within, if_pos within, Option.map_some, sign, List.append_assoc]
    simp only [decide_eq_true_eq]
  · rw [if_neg within, if_neg within, Option.map_none]

end Decimal

/-- The numeral of a number denotes the multiple of the last place that the number rounds to. No
other text denotes it in this form, and it is the value of the numeral; a number with too many whole
digits after rounding has no numeral. So evaluating a numeral again does not change it. -/
theorem numeral_denotes_rounded :
    (∀ value : Rat, ∃ units : Int,
      (∀ other, Decimal.RoundsTo value other ↔ other = units) ∧
      if (digits ⌊|Decimal.ofUnits units|⌋₊).length ≤ Numeral.digitLimit then
        ∃ text, Decimal.ofRat? value = some text ∧
          (∀ other, Decimal.IsNumeralOf other (Decimal.ofUnits units) ↔ other = text) ∧
          evaluate text = .ok (Decimal.ofUnits units)
      else Decimal.ofRat? value = none) ∧
    ∀ expression text, numeral? expression = some text → numeral? text = some text := by
  constructor
  · intro value
    refine ⟨Decimal.signedUnits value, fun _ => Decimal.roundsTo_iff_eq, ?_⟩
    split
    · next within =>
        refine ⟨Decimal.numeralOf (Decimal.signedUnits value), ?_, ?_, ?_⟩
        · rw [Decimal.ofRat?_eq, if_pos within]
        · intro other
          exact Decimal.isNumeralOf_iff
        · exact (Decimal.isNumeralOf_numeralOf _).evaluate_eq within
    · next beyond => rw [Decimal.ofRat?_eq, if_neg beyond]
  · intro expression text found
    obtain ⟨value, -, written⟩ := numeral?_eq_some_iff.mp found
    rw [Decimal.ofRat?_eq, Option.ite_none_right_eq_some] at written
    obtain ⟨within, same⟩ := written
    rw [← Option.some_inj.mp same]
    rw [numeral?_eq_some_iff]
    refine ⟨_, (Decimal.isNumeralOf_numeralOf _).evaluate_eq within, ?_⟩
    have fixed := Decimal.roundsTo_iff_eq.mp (Decimal.roundsTo_ofUnits (Decimal.signedUnits value))
    rw [Decimal.ofRat?_eq, ← fixed, if_pos within]

theorem numeral_denotes_rounded_at_third :
    numeral? "-1/3".text = some "-0.333333".text ∧
      numeral? "-0.333333".text = some "-0.333333".text := by
  have written : numeral? "-1/3".text = some "-0.333333".text := by decide +kernel
  exact ⟨written, numeral_denotes_rounded.2 _ _ written⟩

/-- A carry into the whole part, and a negative number that rounds to zero. -/
example :
    numeral? "0.9999999".text = some [.char '1'] ∧
      numeral? "-0.0000004".text = some [.char '0'] := by
  decide +kernel

end Arithmetic

end LineShell
