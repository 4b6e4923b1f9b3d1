import LineShell.Arithmetic.Power
import LineShell.Arithmetic.Reading

namespace LineShell.Arithmetic

def truncate (value : Rat) : Int :=
  value.num.tdiv value.den

/-- What is left of `left` after taking away `right` as often as it fits, with the sign of `left`.
-/
def remainderOf (left right : Rat) : Except Failure Rat :=
  if right.num = 0 then .error .remainderByZero
  else .ok (left - right * Rat.ofInt (truncate (left / right)))

def quotientOf (left right : Rat) : Except Failure Rat :=
  if right.num = 0 then .error .divisionByZero else .ok (left / right)

def Operator.apply : Operator → Rat → Rat → Except Failure Rat
  | .add, left, right => .ok (left + right)
  | .subtract, left, right => .ok (left - right)
  | .multiply, left, right => .ok (left * right)
  | .divide, left, right => quotientOf left right
  | .remainder, left, right => remainderOf left right
  | .power, left, right => powerOf left right

def Expr.value : Expr → Except Failure Rat
  | .number value => .ok value
  | .negated operand =>
      match operand.value with
      | .ok value => .ok (-value)
      | .error failure => .error failure
  | .binary operator left right =>
      match left.value with
      | .ok first =>
          match right.value with
          | .ok second => operator.apply first second
          | .error failure => .error failure
      | .error failure => .error failure
  | .fault cause => .error (.malformed cause)
  | .cutShort inner cause =>
      match inner.value with
      | .ok _ => .error (.malformed cause)
      | .error failure => .error failure

def evaluate (text : Text) : Except Failure Rat :=
  match Token.read text with
  | .ok tokens => (Expr.ofTokens text.length tokens).value
  | .error failure => .error failure

end LineShell.Arithmetic
