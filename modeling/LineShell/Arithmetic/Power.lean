import LineShell.Arithmetic.Double
import LineShell.Arithmetic.Failure

namespace LineShell.Arithmetic

def exponentLimit : Nat := 4096

/-- The most bits that the numerator or the denominator of a power may be expected to have. -/
def powerBitLimit : Nat := 65536

def powerBits (base : Rat) (exponent : Int) : Nat :=
  exponent.natAbs * max (bitLength base.num.natAbs) (bitLength base.den)

/-- A power with an integral exponent. An exponent beyond the limit is reported only if its own
numeral can be written. -/
def integralPower (base : Rat) (exponent : Int) : Except Failure Rat :=
  if exponentLimit < exponent.natAbs then
    match Numeral.ofInt? exponent with
    | some _ => .error (.exponentTooLarge exponent)
    | none => .error .tooManyDigits
  else if powerBitLimit < powerBits base exponent then
    .error (.powerTooLarge (powerBits base exponent))
  else if exponent < 0 then
    if base.num = 0 then .error .divisionByZero
    else .ok (Rat.pow (Rat.inv base) exponent.natAbs)
  else .ok (Rat.pow base exponent.natAbs)

/-- A power with a fractional exponent, computed with doubles. Infinity is no number for a base of
zero and too large otherwise. -/
def fractionalPower (base exponent : Rat) : Except Failure Rat :=
  match Double.ofRat? base, Double.ofRat? exponent with
  | some baseBits, some exponentBits =>
      let result := Double.power baseBits exponentBits
      match Double.kind result with
      | .finite => .ok (Double.value result)
      | .infinite =>
          .error (if Double.magnitude baseBits = 0 then .undefinedPower else .beyondDouble)
      | .undefined => .error .undefinedPower
  | _, _ => .error .beyondDouble

def powerOf (base exponent : Rat) : Except Failure Rat :=
  if exponent.den = 1 then integralPower base exponent.num else fractionalPower base exponent

end LineShell.Arithmetic
