import LineShell.Arithmetic.Rounding
import LineShell.Text.Numeral

namespace LineShell.Arithmetic.Decimal

def places : Nat := 6

def scale : Nat := Nat.pow 10 places

def units (value : Rat) : Nat :=
  roundToEven (value.num.natAbs * scale) value.den

/-- The decimal digits of a number of units less than `scale`, without trailing zeros. -/
def fractionDigits (units : Nat) : Text :=
  let digits := Numeral.digits units
  let padded := List.replicate (places - digits.length) (.char '0') ++ digits
  (padded.reverse.dropWhile (· = .char '0')).reverse

def ofRat? (value : Rat) : Option Text :=
  let size := units value
  (Numeral.ofNat? (size / scale)).map fun whole =>
    (if value.num < 0 && size ≠ 0 then [.char '-'] else []) ++ whole ++
      (if size % scale = 0 then [] else .char '.' :: fractionDigits (size % scale))

end LineShell.Arithmetic.Decimal
