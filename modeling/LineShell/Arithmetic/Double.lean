import LineShell.Arithmetic.Rounding

namespace LineShell.Arithmetic

def bitLength (n : Nat) : Nat :=
  if n = 0 then 0 else n.log2 + 1

theorem bitLength_le_iff (n count : Nat) : bitLength n ≤ count ↔ n < Nat.pow 2 count := by
  unfold bitLength
  split
  · next nothing =>
      subst nothing
      exact ⟨fun _ => Nat.two_pow_pos count, fun _ => Nat.zero_le count⟩
  · next something => exact Nat.log2_lt something

namespace Double

def infinityBits : Nat := 0x7FF0000000000000

def signBit : Nat := 0x8000000000000000

/-- The exponent of the last of the 53 binary digits of a positive quotient, or -1074 if the
quotient is too small to have that many in a double. -/
def lastExponent (numerator denominator : Nat) : Int :=
  let estimate : Int := (bitLength numerator : Int) - bitLength denominator - 53
  let reached :=
    if estimate < 0 then
      denominator * Nat.pow 2 53 ≤ numerator * Nat.pow 2 estimate.natAbs
    else denominator * Nat.pow 2 (53 + estimate.natAbs) ≤ numerator
  max (if reached then estimate + 1 else estimate) (-1074)

/-- The bit pattern nearest to a quotient, ties to even; it may be beyond the finite ones. -/
def nearestBits (numerator denominator : Nat) : Nat :=
  if numerator = 0 then 0
  else
    let exponent := lastExponent numerator denominator
    let digits :=
      if exponent < 0 then roundToEven (numerator * Nat.pow 2 exponent.natAbs) denominator
      else roundToEven numerator (denominator * Nat.pow 2 exponent.natAbs)
    (exponent + 1074).toNat * Nat.pow 2 52 + digits

def ofRat? (value : Rat) : Option UInt64 :=
  let bits := nearestBits value.num.natAbs value.den
  if bits < infinityBits then
    some (UInt64.ofNat (if value.num < 0 then signBit + bits else bits))
  else none

def unsigned (bits : UInt64) : Nat :=
  bits.toNat % signBit

def magnitude (bits : UInt64) : Nat :=
  let exponent := unsigned bits / Nat.pow 2 52
  let digits := unsigned bits % Nat.pow 2 52
  if exponent = 0 then digits else (Nat.pow 2 52 + digits) * Nat.pow 2 (exponent - 1)

def value (bits : UInt64) : Rat :=
  let size : Int := magnitude bits
  mkRat (if signBit ≤ bits.toNat then -size else size) (Nat.pow 2 1074)

inductive Kind
  | finite
  | infinite
  | undefined
  deriving DecidableEq, Repr

def kind (bits : UInt64) : Kind :=
  if unsigned bits < infinityBits then .finite
  else if unsigned bits = infinityBits then .infinite
  else .undefined

def power (base exponent : UInt64) : UInt64 :=
  (Float.pow (Float.ofBits base) (Float.ofBits exponent)).toBits

end Double

end LineShell.Arithmetic
