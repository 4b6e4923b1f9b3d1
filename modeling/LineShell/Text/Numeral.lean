import LineShell.Text.Digit
import LineShell.Text.Basic

namespace LineShell.Numeral

def digitLimit : Nat := 4300

inductive TooLong
  | tooLong
  deriving DecidableEq, Repr

def digits (n : Nat) : Text :=
  (Nat.toDigits 10 n).map .char

def ofNat? (n : Nat) : Option Text :=
  let text := digits n
  if text.length ≤ digitLimit then some text else none

def ofInt? (n : Int) : Option Text :=
  (ofNat? n.natAbs).map fun text => if n < 0 then '-' :: text else text

def ofInt (n : Int) : Text :=
  if n < 0 then '-' :: digits n.natAbs else digits n.natAbs

def valueOf (values : List Nat) : Nat :=
  values.foldl (fun total value => 10 * total + value) 0

def value (text : Text) : Nat :=
  Nat.ofDigitChars 10 (text.map CodePoint.replaced) 0

def takeSign : Text → Int × Text
  | '+' :: rest => (1, rest)
  | '-' :: rest => (-1, rest)
  | text => (1, text)

/-- The digit values of a text of decimal digits of any script, single low lines between them. -/
def digitValues? : Text → Option (List Nat)
  | [] => none
  | [c] => (Text.decimalDigit? c).map ([·])
  | c :: '_' :: rest => do
      let first ← Text.decimalDigit? c
      let others ← digitValues? rest
      return first :: others
  | c :: rest => do
      let first ← Text.decimalDigit? c
      let others ← digitValues? rest
      return first :: others

def toInt? (text : Text) : Option Int :=
  let (sign, rest) := takeSign text
  match digitValues? rest with
  | some values => if values.length ≤ digitLimit then some (sign * valueOf values) else none
  | none => none

end LineShell.Numeral
