import LineShell.Arithmetic.Expr
import LineShell.Arithmetic.Token

/-!
The reading of expressions from tokens. Sums and products group to the left, powers to the right; a
power binds tighter than the sign before it, and its exponent may have a sign of its own. A reading
tells how many tokens it took, so what is left to read is always a shorter list.
-/

namespace LineShell.Arithmetic

structure Reading where
  expr : Expr
  taken : Nat
  deriving DecidableEq, Repr

def additive? : Lexeme → Option Operator
  | .plus => some .add
  | .minus => some .subtract
  | _ => none

def multiplicative? : Lexeme → Option Operator
  | .times => some .multiply
  | .over => some .divide
  | .remainder => some .remainder
  | _ => none

def nextPosition (finish : Nat) : List Token → Nat
  | [] => finish
  | token :: _ => token.position

def readClosing (finish : Nat) (inner : Expr) (tokens : List Token) : Reading :=
  match tokens with
  | ⟨.closing, _⟩ :: _ => ⟨inner, 1⟩
  | _ => ⟨.cutShort inner (.expectedClosing (nextPosition finish tokens)), 0⟩

mutual

def readSum (finish : Nat) (tokens : List Token) : Reading :=
  let first := readProduct finish tokens
  let whole := readTerms finish first.expr (tokens.drop first.taken)
  ⟨whole.expr, first.taken + whole.taken⟩
termination_by 6 * tokens.length + 5
decreasing_by
  · omega
  · simp only [List.length_drop]
    omega

def readTerms (finish : Nat) (left : Expr) (tokens : List Token) : Reading :=
  match tokens with
  | [] => ⟨left, 0⟩
  | token :: more =>
      match additive? token.lexeme with
      | none => ⟨left, 0⟩
      | some operator =>
          let right := readProduct finish more
          let whole := readTerms finish (.binary operator left right.expr) (more.drop right.taken)
          ⟨whole.expr, 1 + right.taken + whole.taken⟩
termination_by 6 * tokens.length
decreasing_by
  all_goals simp only [List.length_cons, List.length_drop]
  all_goals omega

/-- Reads a product: factors joined by the signs of multiplication, division and remainder. -/
def readProduct (finish : Nat) (tokens : List Token) : Reading :=
  let first := readSigned finish tokens
  let whole := readFactors finish first.expr (tokens.drop first.taken)
  ⟨whole.expr, first.taken + whole.taken⟩
termination_by 6 * tokens.length + 4
decreasing_by
  · omega
  · simp only [List.length_drop]
    omega

def readFactors (finish : Nat) (left : Expr) (tokens : List Token) : Reading :=
  match tokens with
  | [] => ⟨left, 0⟩
  | token :: more =>
      match multiplicative? token.lexeme with
      | none => ⟨left, 0⟩
      | some operator =>
          let right := readSigned finish more
          let whole := readFactors finish (.binary operator left right.expr) (more.drop right.taken)
          ⟨whole.expr, 1 + right.taken + whole.taken⟩
termination_by 6 * tokens.length
decreasing_by
  all_goals simp only [List.length_cons, List.length_drop]
  all_goals omega

def readSigned (finish : Nat) (tokens : List Token) : Reading :=
  match tokens with
  | ⟨.minus, _⟩ :: more =>
      let operand := readSigned finish more
      ⟨.negated operand.expr, 1 + operand.taken⟩
  | ⟨.plus, _⟩ :: more =>
      let operand := readSigned finish more
      ⟨operand.expr, 1 + operand.taken⟩
  | tokens => readPower finish tokens
termination_by 6 * tokens.length + 2
decreasing_by
  · simp only [List.length_cons]
    omega
  · simp only [List.length_cons]
    omega
  · omega

def readPower (finish : Nat) (tokens : List Token) : Reading :=
  let base := readPrimary finish tokens
  let whole := readExponent finish base.expr (tokens.drop base.taken)
  ⟨whole.expr, base.taken + whole.taken⟩
termination_by 6 * tokens.length + 1
decreasing_by
  · omega
  · simp only [List.length_drop]
    omega

def readExponent (finish : Nat) (base : Expr) (tokens : List Token) : Reading :=
  match tokens with
  | ⟨.caret, _⟩ :: more =>
      let exponent := readSigned finish more
      ⟨.binary .power base exponent.expr, 1 + exponent.taken⟩
  | _ => ⟨base, 0⟩
termination_by 6 * tokens.length
decreasing_by
  simp only [List.length_cons]
  omega

def readPrimary (finish : Nat) (tokens : List Token) : Reading :=
  match tokens with
  | [] => ⟨.fault (.expectedOperand finish), 0⟩
  | ⟨.number value, _⟩ :: _ => ⟨.number value, 1⟩
  | ⟨.opening, _⟩ :: more =>
      let inner := readSum finish more
      let whole := readClosing finish inner.expr (more.drop inner.taken)
      ⟨whole.expr, 1 + inner.taken + whole.taken⟩
  | token :: _ => ⟨.fault (.expectedOperand token.position), 1⟩
termination_by 6 * tokens.length
decreasing_by
  simp only [List.length_cons]
  omega

end

namespace Expr

/-- The expression that the tokens of a text spell; `finish` is the position of the text's end. -/
def ofTokens (finish : Nat) (tokens : List Token) : Expr :=
  if tokens.isEmpty then .fault .emptyExpression
  else
    let whole := readSum finish tokens
    match tokens.drop whole.taken with
    | [] => whole.expr
    | token :: _ => .cutShort whole.expr (.unexpectedToken token.position)

end Expr

end LineShell.Arithmetic
