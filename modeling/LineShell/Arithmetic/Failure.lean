import LineShell.Text.Numeral
import LineShell.Text.Quoted

namespace LineShell.Arithmetic

inductive Fault
  | invalidCharacter (c : CodePoint) (position : Nat)
  | emptyExpression
  | unexpectedToken (position : Nat)
  | expectedClosing (position : Nat)
  | expectedOperand (position : Nat)
  deriving DecidableEq, Repr

inductive Failure
  | malformed (fault : Fault)
  | tooManyDigits
  | divisionByZero
  | remainderByZero
  | exponentTooLarge (exponent : Int)
  | powerTooLarge (bits : Nat)
  | undefinedPower
  | beyondDouble
  deriving DecidableEq, Repr

def Fault.message : Fault → Text
  | .invalidCharacter c position =>
      "invalid token ".text ++ Text.quoted [c] ++ " at position ".text ++
        Numeral.digits position
  | .emptyExpression => "empty expression".text
  | .unexpectedToken position => "unexpected token at position ".text ++ Numeral.digits position
  | .expectedClosing position => "expected ')' at position ".text ++ Numeral.digits position
  | .expectedOperand position => "expected operand at position ".text ++ Numeral.digits position

def Failure.message? : Failure → Option Text
  | .malformed fault => some fault.message
  | .remainderByZero => some "modulo by zero".text
  | .exponentTooLarge exponent =>
      some ("exponent too large: ".text ++ Numeral.ofInt exponent)
  | .powerTooLarge bits =>
      some ("result of power too large: about ".text ++ Numeral.digits bits ++ " bits".text)
  | _ => none

end LineShell.Arithmetic
