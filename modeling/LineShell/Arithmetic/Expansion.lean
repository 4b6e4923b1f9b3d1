import LineShell.Arithmetic.Decimal
import LineShell.Arithmetic.Evaluation
import LineShell.Escape

namespace LineShell.Arithmetic

def numeral? (text : Text) : Option Text :=
  match evaluate text with
  | .ok value => Decimal.ofRat? value
  | .error _ => none

/-- The text before the two closing parentheses of an expression, and the text behind them. The
first parenthesis that closes more than was opened, `depth` being open before the text, has to be
the first of the two. -/
def takeBalanced? (depth : Nat) : Text → Option (Text × Text)
  | [] => none
  | c :: rest =>
      if c = ')' && depth = 0 then
        match rest with
        | ')' :: after => some ([], after)
        | _ => none
      else
        let inside := if c = '(' then depth + 1 else if c = ')' then depth - 1 else depth
        (takeBalanced? inside rest).map fun (expression, after) => (c :: expression, after)

/-- The numeral of the expression whose dollar stood directly before a text, and the text behind the
expression. -/
def valueAt? : Text → Option (Text × Text)
  | '(' :: '(' :: rest =>
      match takeBalanced? 0 rest with
      | some (expression, after) => (numeral? expression).map (·, after)
      | none => none
  | _ => none

/-- Reduces a text that `run` backslashes precede. The even run before a reduced expression is
halved. -/
def reduceAfter (run : Nat) : Text → Text
  | [] => Escape.backslashes run
  | c :: rest =>
      if c = '\\' then reduceAfter (run + 1) rest
      else
        let tail := reduceAfter 0 rest
        match if c = '$' && !Escape.escapes run then valueAt? tail else none with
        | some (value, after) => Escape.backslashes (run / 2) ++ value ++ after
        | none => Escape.backslashes run ++ c :: tail

def reduce (text : Text) : Text :=
  reduceAfter 0 text

end LineShell.Arithmetic
