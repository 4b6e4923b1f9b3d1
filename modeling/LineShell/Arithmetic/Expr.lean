import LineShell.Arithmetic.Failure

namespace LineShell.Arithmetic

inductive Operator
  | add
  | subtract
  | multiply
  | divide
  | remainder
  | power
  deriving DecidableEq, Repr

inductive Expr
  | number (value : Rat)
  | negated (operand : Expr)
  | binary (operator : Operator) (left right : Expr)
  | fault (cause : Fault)
  | cutShort (inner : Expr) (cause : Fault)
  deriving DecidableEq, Repr

end LineShell.Arithmetic
