namespace LineShell.Arithmetic

/-- The integer nearest to `numerator / denominator`; of two equally near ones the even one. -/
def roundToEven (numerator denominator : Nat) : Nat :=
  let quotient := numerator / denominator
  let twice := 2 * (numerator % denominator)
  if twice < denominator then quotient
  else if denominator < twice then quotient + 1
  else quotient + quotient % 2

end LineShell.Arithmetic
